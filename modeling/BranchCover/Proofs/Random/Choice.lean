import BranchCover.Random.Twister
import Mathlib.Data.List.GetD
import Mathlib.Tactic.SplitIfs

/-!
# Choices of a generator

What is chosen is one of the things to choose from, in whatever state the generator is.

* `Twister.between_mem`, `Twister.choose_mem`: a choice in an interval and in a list.
* `Twister.Always`: what holds of everything that a computation may draw.
* `Twister.draws`: the next draws of a generator.
-/

namespace BranchCover

namespace Twister

variable {α : Type}

/-! ### Choices -/

theorem belowFrom_lt {n : ℕ} (hn : 0 < n) (k attempts : ℕ) (rng : Twister) :
    (belowFrom n k attempts rng).1 < n := by
  induction attempts generalizing rng with
  | zero => exact Nat.mod_lt _ hn
  | succ attempts ih =>
    show (if (bits k rng).1 < n then bits k rng else belowFrom n k attempts (bits k rng).2).1 < n
    split_ifs with h
    · exact h
    · exact ih _

theorem between_mem {low high : Int} (h : low < high) (rng : Twister) :
    low ≤ (between low high rng).1 ∧ (between low high rng).1 < high := by
  have hlt : (below (high - low).toNat rng).1 < (high - low).toNat :=
    belowFrom_lt (by omega) _ _ rng
  show low ≤ low + ((below (high - low).toNat rng).1 : Int) ∧
    low + ((below (high - low).toNat rng).1 : Int) < high
  omega

theorem choose_mem {default : α} {members : List α} (h : members ≠ []) (rng : Twister) :
    (choose default members rng).1 ∈ members := by
  have hlt : (below members.length rng).1 < members.length :=
    belowFrom_lt (List.length_pos_iff.2 h) _ _ rng
  show members.getD (below members.length rng).1 default ∈ members
  rw [List.getD_eq_getElem _ _ hlt]
  exact List.getElem_mem hlt

/-! ### What is always drawn -/

/-- Whatever is drawn, a property holds of what a computation gives. -/
def Always (P : α → Prop) (draw : Random α) : Prop := ∀ rng, P (draw rng).1

section Always

variable {β : Type} {P Q : α → Prop}

theorem always_pure {a : α} (h : P a) : Always P (pure a) := fun _ => h

theorem Always.mono {draw : Random α} (h : Always P draw) (hPQ : ∀ a, P a → Q a) : Always Q draw :=
  fun rng => hPQ _ (h rng)

theorem Always.bind {draw : Random α} {next : α → Random β} {R : β → Prop} (h : Always P draw)
    (hnext : ∀ a, P a → Always R (next a)) : Always R (draw >>= next) :=
      fun rng => hnext _ (h rng) _

/-- A first draw about which nothing is said. -/
theorem always_bind {draw : Random α} {next : α → Random β} {R : β → Prop}
    (hnext : ∀ a, Always R (next a)) :
    Always R (draw >>= next) := fun rng => hnext (draw rng).1 (draw rng).2

theorem always_ite {p : Prop} [Decidable p] {first second : Random α} (hfirst : p → Always P first)
    (hsecond : ¬p → Always P second) : Always P (if p then first else second) := by
  split_ifs with h
  · exact hfirst h
  · exact hsecond h

theorem always_choose {default : α} {members : List α} (hdefault : P default)
    (h : ∀ a ∈ members, P a) :
    Always P (choose default members) := by
  intro rng
  show P (members.getD (below members.length rng).1 default)
  rw [List.getD_eq_getElem?_getD]
  cases hmember : members[(below members.length rng).1]? with
  | none => exact hdefault
  | some a => exact h a (List.mem_of_getElem? hmember)

end Always

/-! ### Draws one after another -/

/-- The next draws of a generator. -/
def draws (draw : Random α) : ℕ → Twister → List α
  | 0, _ => []
  | count + 1, rng => (draw rng).1 :: draws draw count (draw rng).2

theorem draws_ne_nil {draw : Random α} {count : ℕ} (h : 1 ≤ count) (rng : Twister) :
    draws draw count rng ≠ [] := by
  obtain ⟨left, rfl⟩ := Nat.exists_eq_add_of_le' h
  exact List.cons_ne_nil _ _

/-- What holds of every draw holds of all draws one after another. -/
theorem forall_mem_draws {draw : Random α} {P : α → Prop} (h : ∀ rng, P (draw rng).1) (count : ℕ)
    (rng : Twister) :
    ∀ a ∈ draws draw count rng, P a := by
  induction count generalizing rng with
  | zero => simp [draws]
  | succ count ih => exact List.forall_mem_cons.2 ⟨h rng, ih _⟩

end Twister

end BranchCover
