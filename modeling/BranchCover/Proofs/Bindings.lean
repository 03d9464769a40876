import BranchCover.Bindings
import Mathlib.Data.List.Basic

/-!
# What bindings hold

Bindings are a look-up table: binding a name changes what is bound to that name and nothing else,
and of several values for a name in a list the last one counts.

* `get?_set`: what is bound behind one change.
* `get?_ofList`: what is bound by a list.
-/

namespace BranchCover.Bindings

variable (bindings : Bindings) {name other : String}

theorem get?_cons (pair : String × String) :
    get? (pair :: bindings) name = if pair.1 = name then some pair.2 else bindings.get? name := by
  by_cases h : pair.1 = name
  · simp [get?, h]
  · simp [get?, h]

theorem get?_set (value : String) :
    (bindings.set name value).get? other = if name = other then some value
      else bindings.get? other := by
  induction bindings with
  | nil => rw [set, get?_cons]
  | cons first rest ih =>
    rw [set]
    by_cases hfirst : first.1 = name
    · rw [if_pos hfirst, get?_cons, get?_cons]
      by_cases hname : name = other
      · rw [if_pos hname, if_pos hname]
      · have hother : first.1 ≠ other := fun h => hname (hfirst ▸ h)
        rw [if_neg hname, if_neg hname, if_neg hother]
    · rw [if_neg hfirst, get?_cons, get?_cons, ih]
      by_cases hname : name = other
      · have hother : first.1 ≠ other := fun h => hfirst (h.trans hname.symm)
        rw [if_pos hname, if_neg hother, if_pos hname]
      · rw [if_neg hname, if_neg hname]

@[simp] theorem get?_set_self (value : String) :
    (bindings.set name value).get? name = some value := by
  rw [get?_set, if_pos rfl]

theorem get?_set_of_ne {value : String} (h : name ≠ other) :
    (bindings.set name value).get? other = bindings.get? other := by
  rw [get?_set, if_neg h]

/-- Of several values for a name the last one counts. -/
theorem get?_ofList (pairs : List (String × String)) :
    (ofList pairs).get? name = (pairs.reverse.find? (·.1 == name)).map (·.2) := by
  -- the bindings so far count only for names that the list does not bind
  have hfold : ∀ (pairs : List (String × String)) (bindings : Bindings),
      (pairs.foldl (fun bindings (pair : String × String) =>
        bindings.set pair.1 pair.2) bindings).get?
          name = ((pairs.reverse.find? (·.1 == name)).map (·.2)).or (bindings.get? name) := by
    intro pairs
    induction pairs with
    | nil => simp
    | cons pair pairs ih =>
      intro bindings
      rw [List.foldl_cons, ih, get?_set, List.reverse_cons, List.find?_append]
      cases pairs.reverse.find? (·.1 == name) with
      | some found => simp
      | none =>
        by_cases h : pair.1 = name
        · simp [h]
        · simp [h]
  exact (hfold pairs []).trans (Option.or_none ..)

end BranchCover.Bindings
