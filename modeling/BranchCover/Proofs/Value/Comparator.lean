import BranchCover.Value.Truth

/-!
# Comparisons of integers

Of an integer `k` or one of its neighbours each operator says what is wanted. Between two bounds the
nearest integer has to do: it does wherever some integer between them does, but for a difference
from the upper bound, which is asked of `k + 1` and moved back onto `k`.

* `Comparator.relates`: what an operator says of two integers.
* `Comparator.shift`: how far from `k` an integer lies of which the operator says what is wanted.
* `clamp`: the nearest integer between two bounds.
* `Comparator.relates_clamp_iff`: when the operator says of that integer what is wanted.
-/

namespace BranchCover

namespace Comparator

/-- What an operator says of two integers. -/
def relates (operator : Comparator) (n k : Int) : Bool :=
  match operator with
  | greater => decide (k < n)
  | atLeast => decide (k ≤ n)
  | less => decide (n < k)
  | atMost => decide (n ≤ k)
  | equal => decide (n = k)
  | notEqual => decide (n ≠ k)
  | unknown _ => false

theorem mem_all_cases {operator : Comparator} (hknown : operator ∈ all) :
    operator = atLeast ∨ operator = atMost ∨ operator = equal ∨ operator = notEqual ∨
    operator = greater ∨
      operator = less := by
  simpa [all] using hknown

theorem holds?_compare {operator : Comparator} (hknown : operator ∈ all) (n k : Int) :
    operator.holds? (compare n k) = some (operator.relates n k) := by
  have hlt : (compare n k == .lt) = decide (n < k) := by
    rw [Bool.eq_iff_iff, beq_iff_eq, Int.compare_eq_lt, decide_eq_true_iff]
  have hgt : (compare n k == .gt) = decide (k < n) := by
    rw [Bool.eq_iff_iff, beq_iff_eq, Int.compare_eq_gt, decide_eq_true_iff]
  have heq : (compare n k == .eq) = decide (n = k) := by
    rw [Bool.eq_iff_iff, beq_iff_eq, Int.compare_eq_eq, decide_eq_true_iff]
  rcases mem_all_cases hknown with rfl | rfl | rfl | rfl | rfl | rfl <;>
    simp only [holds?, relates, bne, hlt, hgt, heq, ← decide_not, Int.not_lt, ne_eq]

/-- How far from an integer a number lies for which a comparison with it takes a wanted truth. -/
def shift (operator : Comparator) (desired : Bool) : Int :=
  match operator with
  | greater => if desired then 1 else -1
  | atLeast => if desired then 0 else -1
  | less => if desired then -1 else 1
  | notEqual => if desired then 1 else 0
  | _ => if desired then 0 else 1

theorem shift_bounds (operator : Comparator) (desired : Bool) :
    -1 ≤ operator.shift desired ∧ operator.shift desired ≤ 1 := by
  cases operator <;> cases desired <;> simp [shift]

theorem relates_shift {operator : Comparator} (hknown : operator ∈ all) (k : Int) (desired : Bool) :
    operator.relates (k + operator.shift desired) k = desired := by
  rcases mem_all_cases hknown with rfl | rfl | rfl | rfl | rfl | rfl <;> cases desired <;>
    simp only [relates, shift, if_true, if_false, Bool.false_eq_true, decide_eq_true_eq,
      decide_eq_false_iff_not] <;>
    omega

end Comparator

/-- The integer nearest to an integer between two bounds. -/
def clamp (least greatest n : Int) : Int := max least (min n greatest)

theorem clamp_mem {least greatest : Int} (h : least ≤ greatest) (n : Int) :
    least ≤ clamp least greatest n ∧ clamp least greatest n ≤ greatest := by
  unfold clamp
  omega

namespace Comparator

/-- A difference from the upper bound is wanted: the number above it is moved back onto it. -/
def MovesBack (operator : Comparator) (desired : Bool) (greatest k : Int) : Prop :=
  (operator, desired) ∈ [(equal, false), (notEqual, true)] ∧ k = greatest

/-- **Between the bounds an operator says what is wanted of the nearest integer exactly if it does
so of some integer, but for a difference from the upper bound.** -/
theorem relates_clamp_iff {operator : Comparator} {least greatest k : Int} (hknown : operator ∈ all)
    (hbounds : least ≤ greatest) (desired : Bool) :
    operator.relates (clamp least greatest (k + operator.shift desired)) k = desired ↔
      (∃ m, least ≤ m ∧ m ≤ greatest ∧ operator.relates m k = desired) ∧
        ¬ operator.MovesBack desired greatest k := by
  constructor
  · intro h
    obtain ⟨hlow, hhigh⟩ := clamp_mem hbounds (k + operator.shift desired)
    refine ⟨⟨_, hlow, hhigh, h⟩, ?_⟩
    rintro ⟨hmoves, rfl⟩
    rcases mem_all_cases hknown with rfl | rfl | rfl | rfl | rfl | rfl <;> cases desired <;>
      simp [relates, shift, clamp] at hmoves h <;> omega
  · rintro ⟨⟨m, hlow, hhigh, hm⟩, hmoves⟩
    rcases mem_all_cases hknown with rfl | rfl | rfl | rfl | rfl | rfl <;> cases desired <;>
      simp [MovesBack, relates, shift, clamp] at hmoves hm ⊢ <;> omega

end Comparator

end BranchCover
