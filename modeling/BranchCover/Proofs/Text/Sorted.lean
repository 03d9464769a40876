import BranchCover.Text.Sorted
import Mathlib.Data.List.Nodup
import Mathlib.Data.String.Basic

/-!
# Sorted sets of texts

A sorted set has the members of the list that it was made from, each once and in order. So it
depends on these members alone, and leaving out members of the list leaves them out of the set.
-/

namespace BranchCover.Text

variable {text other : String} {texts : List String}

@[simp] theorem mem_insertSorted : other ∈ insertSorted text texts ↔
    other = text ∨ other ∈ texts := by
  induction texts with
  | nil => simp [insertSorted]
  | cons first rest ih =>
    rw [insertSorted]
    split_ifs with hlt heq
    · simp
    · simp [heq]
    · rw [List.mem_cons, ih, List.mem_cons, or_left_comm]

@[simp] theorem mem_sortedSet : other ∈ sortedSet texts ↔ other ∈ texts := by
  induction texts with
  | nil => rfl
  | cons text rest ih =>
    rw [show sortedSet (text :: rest) = insertSorted text (sortedSet rest) from rfl,
      mem_insertSorted, ih, List.mem_cons]

theorem pairwise_insertSorted (h : texts.Pairwise (· < ·)) :
    (insertSorted text texts).Pairwise (· < ·) := by
  induction texts with
  | nil => exact List.pairwise_singleton _ _
  | cons first rest ih =>
    obtain ⟨hfirst, hrest⟩ := List.pairwise_cons.1 h
    rw [insertSorted]
    split_ifs with hlt heq
    · refine List.pairwise_cons.2 ⟨fun other hother => ?_, h⟩
      rcases List.mem_cons.1 hother with rfl | hother
      · exact hlt
      · exact hlt.trans (hfirst other hother)
    · exact h
    · refine List.pairwise_cons.2 ⟨fun other hother => ?_, ih hrest⟩
      rcases mem_insertSorted.1 hother with rfl | hother
      · exact lt_of_le_of_ne (not_lt.1 hlt) (Ne.symm heq)
      · exact hfirst other hother

theorem pairwise_sortedSet (texts : List String) : (sortedSet texts).Pairwise (· < ·) := by
  induction texts with
  | nil => exact List.Pairwise.nil
  | cons text rest ih => exact pairwise_insertSorted ih

/-- A list in strict order is determined by its members. -/
theorem eq_of_pairwise_lt {first second : List String} (hfirst : first.Pairwise (· < ·))
    (hsecond : second.Pairwise (· < ·)) (h : ∀ text, text ∈ first ↔ text ∈ second) :
      first = second := by
  refine ((List.perm_ext_iff_of_nodup (hfirst.imp ne_of_lt) (hsecond.imp ne_of_lt)).2
    h).eq_of_pairwise ?_
    hfirst hsecond
  intro text other _ _ hlt hgt
  exact absurd hgt hlt.asymm

theorem sortedSet_sortedSet (texts : List String) : sortedSet (sortedSet texts) = sortedSet texts :=
  eq_of_pairwise_lt (pairwise_sortedSet _) (pairwise_sortedSet _) fun _ => mem_sortedSet

theorem filter_sortedSet (p : String → Bool) (texts : List String) :
    (sortedSet texts).filter p = sortedSet (texts.filter p) := by
  refine eq_of_pairwise_lt ((pairwise_sortedSet texts).filter p) (pairwise_sortedSet _) fun text =>
    ?_
  simp only [List.mem_filter, mem_sortedSet]

/-- The first member of a kind depends on the members of that kind alone. -/
theorem find?_sortedSet_append {p : String → Bool} {added : List String}
    (h : ∀ text ∈ added, p text = false) :
    (sortedSet (texts ++ added)).find? p = (sortedSet texts).find? p := by
  have hadded : added.filter p = [] := List.filter_eq_nil_iff.2 fun text htext => by
    simp [h text htext]
  rw [← List.head?_filter, ← List.head?_filter, filter_sortedSet, filter_sortedSet,
    List.filter_append, hadded, List.append_nil]

end BranchCover.Text
