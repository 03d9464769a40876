import BranchCover.Proofs.Except
import BranchCover.Synthesis.Branches

/-!
# Runs of the synthesis

A computation of the synthesis is a function of the random generator. A draw moves the generator and
never fails; a check may fail and leaves the generator alone.
-/

namespace BranchCover.Synthesis

variable {α β : Type}

theorem pure_run (a : α) (rng : Twister) : (pure a : SynthesisM α) rng = .ok (a, rng) := rfl

theorem bind_run (x : SynthesisM α) (f : α → SynthesisM β) (rng : Twister) :
    (x >>= f) rng = x rng >>= fun found => f found.1 found.2 := rfl

theorem drawing_bind (random : Random α) (f : α → SynthesisM β) (rng : Twister) :
    (drawing random >>= f) rng = f (random rng).1 (random rng).2 := rfl

theorem checking_bind (result : Except Number.Error α) (f : α → SynthesisM β) (rng : Twister) :
    (checking result >>= f) rng = result >>= fun a => f a rng := by
  cases result with
  | ok a => rfl
  | error e => rfl

end BranchCover.Synthesis
