import BranchCover.Oracle.Assertion
import BranchCover.Plan.Combination

/-!
# Settings of the synthesis
-/

namespace BranchCover

/-- What the synthesis depends on beside the model. -/
structure SynthesisSettings where
  seed : Int := 42
  policy : Policy := .exhaustive
  attemptBudget : Int := 100
  maxExhaustiveAtoms : Int := 8
  elseRetryLimit : Int := 1000
  oracle : Oracle.Mode := .heuristic
  dedupeUses : Bool := true
  deriving DecidableEq, Repr

/-- What the plans for conditions depend on. -/
def SynthesisSettings.planOptions (settings : SynthesisSettings) : Plan.Options where
  policy := settings.policy
  budget := settings.attemptBudget
  maxExhaustiveAtoms := settings.maxExhaustiveAtoms

end BranchCover
