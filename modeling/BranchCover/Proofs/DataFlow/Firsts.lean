import BranchCover.DataFlow.Use
import Mathlib.Data.List.Induction
import Mathlib.Data.List.Nodup

/-!
# First occurrences

The first occurrences of the members of a list, and the uses without repetitions at one place, are
found by one scan, which keeps a member unless it is the same as one that was kept before.

* `firstsBy`: the members of a list that are the same as no member kept before them.
* `firstsBy_sublist`, `pairwise_firstsBy`, `exists_mem_firstsBy`: what is kept stands in its order,
  no two of it are the same, and every member is the same as one that is kept.
* `pairwise_idxOf_firsts`: the first occurrences stand in the order in which they occur.
-/

namespace BranchCover.DataFlow

variable {α : Type} {same : α → α → Bool} {members : List α} {x : α}

/-- The members of a list that are the same as no member kept before them. -/
def firstsBy (same : α → α → Bool) (members : List α) : List α :=
  members.foldl (fun seen x => if seen.any (same x) then seen else seen ++ [x]) []

theorem firstsBy_concat (same : α → α → Bool) (members : List α) (x : α) :
    firstsBy same (members ++ [x]) =
      if (firstsBy same members).any (same x) then firstsBy same members
      else firstsBy same members ++ [x] := by
  rw [firstsBy, List.foldl_concat]
  rfl

theorem firstsBy_sublist (same : α → α → Bool) (members : List α) :
    (firstsBy same members).Sublist members := by
  induction members using List.reverseRecOn with
  | nil => exact List.Sublist.refl _
  | append_singleton members x ih =>
    rw [firstsBy_concat]
    split_ifs
    · exact ih.trans (List.sublist_append_left members [x])
    · exact ih.append (List.Sublist.refl _)

/-- A member that is kept is the same as none kept before it. -/
theorem pairwise_firstsBy (same : α → α → Bool) (members : List α) :
    (firstsBy same members).Pairwise fun x y => same y x = false := by
  induction members using List.reverseRecOn with
  | nil => exact List.Pairwise.nil
  | append_singleton members x ih =>
    rw [firstsBy_concat]
    split_ifs with hany
    · exact ih
    · rw [Bool.not_eq_true, List.any_eq_false] at hany
      refine List.pairwise_append.2 ⟨ih, List.pairwise_singleton _ _, fun y hy z hz => ?_⟩
      obtain rfl := List.mem_singleton.1 hz
      simpa using hany y hy

/-- Every member is the same as one that is kept. -/
theorem exists_mem_firstsBy (hrefl : ∀ x, same x x = true) (h : x ∈ members) :
    ∃ y ∈ firstsBy same members, same x y = true := by
  induction members using List.reverseRecOn with
  | nil => cases h
  | append_singleton members last ih =>
    rw [firstsBy_concat]
    rcases List.mem_append.1 h with h | h
    · obtain ⟨y, hy, hsame⟩ := ih h
      refine ⟨y, ?_, hsame⟩
      split_ifs
      · exact hy
      · exact List.mem_append_left _ hy
    · obtain rfl := List.mem_singleton.1 h
      split_ifs with hany
      · obtain ⟨y, hy, hsame⟩ := List.any_eq_true.1 hany
        exact ⟨y, hy, hsame⟩
      · exact ⟨x, by simp, hrefl x⟩

/-! ### Equal members -/

section Equal

variable [BEq α] [LawfulBEq α]

omit [LawfulBEq α] in
theorem firsts_eq_firstsBy (members : List α) : firsts members = firstsBy (· == ·) members := by
  simp only [firsts, firstsBy, List.contains_eq_any_beq]

/-- The first occurrences have the same members. -/
theorem mem_firsts : x ∈ firsts members ↔ x ∈ members := by
  rw [firsts_eq_firstsBy]
  constructor
  · exact fun h => (firstsBy_sublist _ members).subset h
  · intro h
    obtain ⟨y, hy, hsame⟩ := exists_mem_firstsBy (fun x => beq_self_eq_true x) h
    rwa [eq_of_beq hsame]

/-- The first occurrences stand in their order. -/
theorem pairwise_idxOf_firsts (members : List α) :
    (firsts members).Pairwise fun x y => members.idxOf x < members.idxOf y := by
  rw [firsts_eq_firstsBy]
  induction members using List.reverseRecOn with
  | nil => exact List.Pairwise.nil
  | append_singleton members last ih =>
    have hsubset := (firstsBy_sublist (· == ·) members).subset
    have hkept : (firstsBy (· == ·) members).Pairwise fun x y =>
        (members ++ [last]).idxOf x < (members ++ [last]).idxOf y := by
      refine ih.imp_of_mem fun {x y} hx hy hlt => ?_
      rwa [List.idxOf_append_of_mem (hsubset hx), List.idxOf_append_of_mem (hsubset hy)]
    rw [firstsBy_concat]
    split_ifs with hany
    · exact hkept
    · have hnew : last ∉ members := by
        intro hlast
        obtain ⟨y, hy, hsame⟩ := exists_mem_firstsBy (fun x => beq_self_eq_true x) hlast
        exact hany (List.any_eq_true.2 ⟨y, hy, hsame⟩)
      refine List.pairwise_append.2 ⟨hkept, List.pairwise_singleton _ _, fun x hx y hy => ?_⟩
      obtain rfl := List.mem_singleton.1 hy
      rw [List.idxOf_append_of_mem (hsubset hx), List.idxOf_append_of_notMem hnew]
      exact Nat.lt_add_right _ (List.idxOf_lt_length_of_mem (hsubset hx))

theorem nodup_firsts (members : List α) : (firsts members).Nodup := by
  rw [firsts_eq_firstsBy]
  refine (pairwise_firstsBy _ members).imp fun hne heq => ?_
  rw [heq, beq_self_eq_true] at hne
  cases hne

end Equal

end BranchCover.DataFlow
