import BranchCover.Model.Basic
import Mathlib.Data.List.Induction
import Mathlib.Data.List.Nodup

/-!
# Tables of lines

A table of line contexts is a look-up table with an order: putting a context into a table changes
what is known about its line and about no other, and a line stays where it first appeared.

* `LineTable.places`: the lines that a table knows, in its order.
* `places_update`, `get?_update`: the order and the contents of a table with a second one put into
  it.
* `update_update`: three tables can be put together in either order.
-/

namespace BranchCover.LineTable

/-- The lines that a table knows, in its order. -/
def places (table : LineTable) : List (String × Int) := table.map Prod.fst

@[simp] theorem places_nil : places [] = [] := rfl

@[simp] theorem places_cons (entry : LineEntry) (table : LineTable) :
    places (entry :: table) = entry.1 :: table.places := rfl

theorem places_concat (table : LineTable) (entry : LineEntry) :
    places (table ++ [entry]) = table.places.concat entry.1 := by
  simp [places]

variable {table added first second : LineTable} {entry other : LineEntry} {file : String}
  {line : Int}

/-! ### One context -/

theorem insert_cons_of_eq (h : other.1 = entry.1) :
    insert (other :: table) entry = entry :: table := by
  rw [insert, if_pos h]

theorem insert_cons_of_ne (h : other.1 ≠ entry.1) :
    insert (other :: table) entry = other :: insert table entry := by
  rw [insert, if_neg h]

/-- A context of an unknown line is put at the end. -/
theorem insert_of_notMem (h : entry.1 ∉ table.places) : insert table entry = table ++ [entry] := by
  induction table with
  | nil => rfl
  | cons first rest ih =>
    rw [places_cons, List.mem_cons, not_or] at h
    rw [insert_cons_of_ne (Ne.symm h.1), ih h.2, List.cons_append]

/-- A known line stays where it is, and an unknown one comes last. -/
theorem places_insert (table : LineTable) (entry : LineEntry) :
    (insert table entry).places =
      if entry.1 ∈ table.places then table.places else table.places ++ [entry.1] := by
  induction table with
  | nil => rfl
  | cons first rest ih =>
    by_cases hfirst : first.1 = entry.1
    · rw [insert_cons_of_eq hfirst, places_cons, places_cons, if_pos (by simp [hfirst]), hfirst]
    · rw [insert_cons_of_ne hfirst, places_cons, places_cons, ih]
      have hmem : entry.1 ∈ first.1 :: places rest ↔ entry.1 ∈ places rest := by
        simp [Ne.symm hfirst]
      by_cases hrest : entry.1 ∈ places rest
      · rw [if_pos hrest, if_pos (hmem.2 hrest)]
      · rw [if_neg hrest, if_neg (mt hmem.1 hrest), List.cons_append]

theorem mem_places_insert {place : String × Int} :
    place ∈ (insert table entry).places ↔ place ∈ table.places ∨ place = entry.1 := by
  rw [places_insert]
  split_ifs with hmem
  · constructor
    · exact Or.inl
    · rintro (h | rfl)
      · exact h
      · exact hmem
  · simp

theorem nodup_insert (h : table.places.Nodup) : (insert table entry).places.Nodup := by
  rw [places_insert]
  split_ifs with hmem
  · exact h
  · rw [← List.concat_eq_append]
    exact h.concat hmem

theorem get?_cons : get? (entry :: table) file line =
    if entry.1 = (file, line) then some entry.2 else table.get? file line := by
  by_cases h : entry.1 = (file, line)
  · rw [if_pos h, get?, List.lookup_cons, beq_iff_eq.2 h.symm]
  · rw [if_neg h, get?, List.lookup_cons, beq_eq_false_iff_ne.2 (Ne.symm h), get?]

/-- A table says nothing about a line that it does not know. -/
theorem get?_of_notMem (h : (file, line) ∉ table.places) : table.get? file line = none := by
  induction table with
  | nil => rfl
  | cons first rest ih =>
    rw [places_cons, List.mem_cons, not_or] at h
    rw [get?_cons, if_neg (Ne.symm h.1), ih h.2]

/-- A table has a context for each line that it knows. -/
theorem exists_get?_of_mem (h : (file, line) ∈ table.places) :
    ∃ context, table.get? file line = some context := by
  induction table with
  | nil => cases h
  | cons first rest ih =>
    by_cases hfirst : first.1 = (file, line)
    · exact ⟨first.2, get?_cons.trans (if_pos hfirst)⟩
    · obtain ⟨context, hcontext⟩ := ih ((List.mem_cons.1 h).resolve_left (Ne.symm hfirst))
      exact ⟨context, (get?_cons.trans (if_neg hfirst)).trans hcontext⟩

theorem mem_of_get? {context : LineContext} (h : table.get? file line = some context) :
    ((file, line), context) ∈ table := by
  induction table with
  | nil => cases h
  | cons first rest ih =>
    rw [get?_cons] at h
    split_ifs at h with hfirst
    · rw [← hfirst, ← Option.some.inj h]
      exact List.mem_cons_self
    · exact List.mem_cons_of_mem _ (ih h)

/-- Putting a context into a table changes what is known about its line only. -/
theorem get?_insert : (insert table entry).get? file line =
    if entry.1 = (file, line) then some entry.2 else table.get? file line := by
  induction table with
  | nil => exact get?_cons
  | cons first rest ih =>
    by_cases hfirst : first.1 = entry.1
    · rw [insert_cons_of_eq hfirst, get?_cons, get?_cons, hfirst]
      split_ifs <;> rfl
    · rw [insert_cons_of_ne hfirst, get?_cons, get?_cons, ih]
      by_cases hplace : first.1 = (file, line)
      · have hentry : entry.1 ≠ (file, line) := fun h => hfirst (hplace.trans h.symm)
        rw [if_pos hplace, if_pos hplace, if_neg hentry]
      · rw [if_neg hplace, if_neg hplace]

/-- Of two contexts of one line the later one counts. -/
theorem insert_insert (h : other.1 = entry.1) :
    insert (insert table other) entry = insert table entry := by
  induction table with
  | nil => exact insert_cons_of_eq h
  | cons first rest ih =>
    by_cases hfirst : first.1 = other.1
    · rw [insert_cons_of_eq hfirst, insert_cons_of_eq h, insert_cons_of_eq (hfirst.trans h)]
    · have hentry : first.1 ≠ entry.1 := fun hplace => hfirst (hplace.trans h.symm)
      rw [insert_cons_of_ne hfirst, insert_cons_of_ne hentry, insert_cons_of_ne hentry, ih]

/-- A context of a known line can be put in before or behind that of another line. Of two unknown
lines the one that is put in first comes first. -/
theorem insert_comm (hknown : entry.1 ∈ table.places) (hne : other.1 ≠ entry.1) :
    insert (insert table other) entry = insert (insert table entry) other := by
  induction table with
  | nil => cases hknown
  | cons first rest ih =>
    by_cases hentry : first.1 = entry.1
    · have hother : first.1 ≠ other.1 := fun h => hne (h.symm.trans hentry)
      rw [insert_cons_of_ne hother, insert_cons_of_eq hentry, insert_cons_of_eq hentry,
        insert_cons_of_ne (Ne.symm hne)]
    · have hrest : entry.1 ∈ places rest := by
        rcases List.mem_cons.1 hknown with h | h
        · exact absurd h.symm hentry
        · exact h
      rw [insert_cons_of_ne hentry]
      by_cases hother : first.1 = other.1
      · rw [insert_cons_of_eq hother, insert_cons_of_eq hother, insert_cons_of_ne hne]
      · rw [insert_cons_of_ne hother, insert_cons_of_ne hother, insert_cons_of_ne hentry, ih hrest]

/-! ### Whole tables -/

@[simp] theorem update_nil (table : LineTable) : table.update [] = table := rfl

@[simp] theorem update_cons (table : LineTable) (entry : LineEntry) (added : LineTable) :
    table.update (entry :: added) = (insert table entry).update added := rfl

theorem update_append (table first second : LineTable) :
    table.update (first ++ second) = (table.update first).update second := List.foldl_append

theorem nodup_update (h : table.places.Nodup) : (table.update added).places.Nodup := by
  induction added generalizing table with
  | nil => exact h
  | cons entry added ih => exact ih (nodup_insert h)

theorem mem_places_update {place : String × Int} :
    place ∈ (table.update added).places ↔ place ∈ table.places ∨ place ∈ added.places := by
  induction added generalizing table with
  | nil => simp
  | cons entry added ih =>
    rw [update_cons, ih, mem_places_insert, places_cons, List.mem_cons, or_assoc]

/-- A table without repeated lines is what putting it into an empty one gives. -/
theorem nil_update (h : table.places.Nodup) : update [] table = table := by
  induction table using List.reverseRecOn with
  | nil => rfl
  | append_singleton table entry ih =>
    rw [places_concat, List.nodup_concat] at h
    obtain ⟨hnew, htable⟩ := h
    rw [update_append, ih htable, update_cons, update_nil, insert_of_notMem hnew]

/-- The lines of the first table keep their order, and the new lines of the second follow in
theirs. -/
theorem places_update (h : added.places.Nodup) :
    (table.update added).places =
      table.places ++ added.places.filter fun place => decide (place ∉ table.places) := by
  induction added using List.reverseRecOn with
  | nil => simp
  | append_singleton added entry ih =>
    rw [places_concat, List.nodup_concat] at h
    obtain ⟨hnew, hadded⟩ := h
    have hknown : entry.1 ∈ (table.update added).places ↔ entry.1 ∈ table.places := by
      rw [mem_places_update, or_iff_left hnew]
    rw [update_append, update_cons, update_nil, places_insert, places_concat,
      List.concat_eq_append, List.filter_append, ← List.append_assoc, ← ih hadded]
    by_cases hmem : entry.1 ∈ table.places
    · rw [if_pos (hknown.2 hmem)]
      simp [hmem]
    · rw [if_neg (mt hknown.1 hmem)]
      simp [hmem]

/-- What the second table knows about a line counts before what the first knows. -/
theorem get?_update (h : added.places.Nodup) :
    (table.update added).get? file line = (added.get? file line).or (table.get? file line) := by
  induction added generalizing table with
  | nil => rfl
  | cons entry added ih =>
    rw [places_cons, List.nodup_cons] at h
    rw [update_cons, ih h.2, get?_insert, get?_cons]
    by_cases hplace : entry.1 = (file, line)
    · have hnone : get? added file line = none := get?_of_notMem (hplace ▸ h.1)
      rw [if_pos hplace, if_pos hplace, hnone, Option.none_or, Option.some_or]
    · rw [if_neg hplace, if_neg hplace]

/-- A context of a known line can be put in before or behind a table that does not know its line. -/
theorem insert_update_comm (hknown : entry.1 ∈ table.places) (hnew : entry.1 ∉ added.places) :
    insert (table.update added) entry = (insert table entry).update added := by
  induction added generalizing table with
  | nil => rfl
  | cons other added ih =>
    rw [places_cons, List.mem_cons, not_or] at hnew
    rw [update_cons, update_cons, ih (mem_places_insert.2 (Or.inl hknown)) hnew.2,
      insert_comm hknown (Ne.symm hnew.1)]

/-- A context can be put into a table before or behind the table is put into another. -/
theorem update_insert (h : added.places.Nodup) :
    table.update (insert added entry) = insert (table.update added) entry := by
  induction added generalizing table with
  | nil => rfl
  | cons first rest ih =>
    rw [places_cons, List.nodup_cons] at h
    by_cases hfirst : first.1 = entry.1
    · -- the earlier context of the line is overwritten behind all others of its table
      have hknown : entry.1 ∈ (insert table first).places :=
        mem_places_insert.2 (Or.inr hfirst.symm)
      rw [insert_cons_of_eq hfirst, update_cons, update_cons,
        insert_update_comm hknown (hfirst ▸ h.1), insert_insert hfirst]
    · rw [insert_cons_of_ne hfirst, update_cons, update_cons, ih h.2]

/-- **Three tables can be put together in either order** if the one in the middle repeats no
line. -/
theorem update_update (h : first.places.Nodup) :
    table.update (first.update second) = (table.update first).update second := by
  induction second generalizing first with
  | nil => rfl
  | cons entry second ih => rw [update_cons, ih (nodup_insert h), update_insert h, update_cons]

end BranchCover.LineTable
