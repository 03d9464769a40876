import BranchCover.Proofs.Text.Pieces
import BranchCover.Proofs.Text.Scan
import BranchCover.Scope

/-!
# Paths of scopes

A scope encloses the scopes whose paths go on behind its own with a dot. Taken apart at their dots,
that is to say that the parts of its path are a beginning of the parts of theirs.

* `path_ofClass`, `path_ofMethod`, `path_ofFunction`: the paths of the kinds of scopes.
* `parts`: a path taken apart at its dots.
* `encloses_iff_parts`: enclosure in terms of the parts.
* `encloses_partialOrder`: enclosure is a partial order with `global` around everything.
-/

namespace BranchCover

namespace Scope

variable {outer inner scope : String}

/-! ### Paths -/

theorem path_of_toList (kind rest : List Char) (h : scope.toList = kind ++ ':' :: rest)
    (hkind : ':' ∉ kind) :
    path scope = String.ofList rest := by
  have hscope : scope ≠ global := by
    rintro rfl
    have hcolon : ':' ∈ global.toList := by simp [h]
    exact absurd hcolon (by decide)
  rw [path, if_neg hscope, h, Text.splitFirst?_append hkind]

@[simp] theorem path_global : path global = "" := rfl

@[simp] theorem path_ofClass (qualifiedName : String) :
    path (ofClass qualifiedName) = qualifiedName := by
  rw [path_of_toList ['c', 'l', 'a', 's', 's'] qualifiedName.toList (by simp [ofClass]) (by decide),
    String.ofList_toList]

@[simp] theorem path_ofMethod (className functionName : String) :
    path (ofMethod className functionName) = className ++ "." ++ functionName := by
  rw [path_of_toList ['m', 'e', 't', 'h', 'o', 'd'] (className ++ "." ++ functionName).toList
    (by simp [ofMethod]) (by decide), String.ofList_toList]

@[simp] theorem path_ofFunction (functionPath : String) :
    path (ofFunction functionPath) = functionPath := by
  rw [path_of_toList ['f', 'u', 'n', 'c', 't', 'i', 'o', 'n'] functionPath.toList
    (by simp [ofFunction]) (by decide), String.ofList_toList]

/-! ### Enclosure -/

theorem encloses_iff : encloses outer inner = true ↔
    outer = inner ∨ outer = global ∨ path outer ≠ "" ∧
    (path outer).toList ++ ['.'] <+: (path inner).toList := by
  simp [encloses, or_assoc, Text.startsWith_iff]

/-- The parts of the path of a scope between its dots. -/
def parts (scope : String) : List (List Char) := Text.splitAtChars (· == '.') (path scope).toList

/-- **A scope encloses those whose paths have more parts behind its own.** -/
theorem encloses_iff_parts : encloses outer inner = true ↔
    outer = inner ∨ outer = global ∨ path outer ≠ "" ∧ ∃ more, more ≠ [] ∧
      parts inner = parts outer ++ more := by
  rw [encloses_iff, Text.append_mark_prefix_iff]
  rfl

/-! ### The order of scopes -/

variable {middle : String}

theorem encloses_refl (scope : String) : encloses scope scope = true := encloses_iff.2 (Or.inl rfl)

theorem encloses_of_global (scope : String) : encloses global scope = true :=
  encloses_iff.2 (Or.inr (Or.inl rfl))

/-- No scope but `global` encloses `global`, the path of which has no parts behind those of
another. -/
theorem encloses_global_iff : encloses scope global = true ↔ scope = global := by
  constructor
  · intro h
    rcases encloses_iff.1 h with hsame | hglobal | ⟨-, hprefix⟩
    · exact hsame
    · exact hglobal
    · have hnil : (path scope).toList ++ ['.'] = [] := List.prefix_nil.1 hprefix
      exact absurd hnil (List.append_ne_nil_of_right_ne_nil _ (List.cons_ne_nil _ _))
  · rintro rfl
    exact encloses_refl global

theorem encloses_trans (h : encloses outer middle = true) (h' : encloses middle inner = true) :
    encloses outer inner = true := by
  rcases encloses_iff_parts.1 h with rfl | rfl | ⟨hpath, more, hmore, hmiddle⟩
  · exact h'
  · exact encloses_of_global inner
  · rcases encloses_iff_parts.1 h' with rfl | rfl | ⟨-, further, -, hinner⟩
    · exact h
    · obtain rfl := encloses_global_iff.1 h
      exact encloses_of_global inner
    · -- the parts of the inner scope go on behind those of the one in the middle
      refine encloses_iff_parts.2 (Or.inr (Or.inr ⟨hpath, more ++ further, ?_, ?_⟩))
      · exact List.append_ne_nil_of_left_ne_nil hmore further
      · rw [hinner, hmiddle, List.append_assoc]

theorem encloses_antisymm (h : encloses outer inner = true) (h' : encloses inner outer = true) :
    outer = inner := by
  rcases encloses_iff_parts.1 h with hsame | rfl | ⟨-, more, hmore, hinner⟩
  · exact hsame
  · exact (encloses_global_iff.1 h').symm
  · rcases encloses_iff_parts.1 h' with hsame | rfl | ⟨-, further, -, houter⟩
    · exact hsame.symm
    · exact encloses_global_iff.1 h
    · -- each of the two would have more parts than the other
      have hinnerLength := congrArg List.length hinner
      have houterLength := congrArg List.length houter
      have hpos := List.length_pos_iff.2 hmore
      rw [List.length_append] at hinnerLength houterLength
      omega

/-- **Enclosure is a partial order of all texts.** `global` encloses every one of them, and only
`global` encloses `global`. -/
theorem encloses_partialOrder :
    (∀ scope, encloses scope scope = true) ∧
    (∀ outer middle inner, encloses outer middle = true → encloses middle inner = true →
      encloses outer inner = true) ∧
    (∀ outer inner, encloses outer inner = true → encloses inner outer = true → outer = inner) ∧
    ∀ scope, encloses global scope = true ∧ (encloses scope global = true ↔ scope = global) :=
  ⟨encloses_refl, fun _ _ _ => encloses_trans, fun _ _ => encloses_antisymm,
    fun scope => ⟨encloses_of_global scope, encloses_global_iff⟩⟩

/-- A class around a method around a local function, which encloses none of the two. -/
theorem encloses_partialOrder_nested :
    encloses "class:a" "method:a.b" = true ∧ encloses "method:a.b" "function:a.b.c" = true ∧
      encloses "class:a" "function:a.b.c" = true ∧ encloses "function:a.b.c" "class:a" = false ∧
      encloses "function:a.b.c" "method:a.b" = false := by
  obtain ⟨-, htrans, hantisymm, -⟩ := encloses_partialOrder
  have hclass : encloses "class:a" "method:a.b" = true := by decide
  have hmethod : encloses "method:a.b" "function:a.b.c" = true := by decide
  have hlocal := htrans _ _ _ hclass hmethod
  refine ⟨hclass, hmethod, hlocal, Bool.eq_false_iff.2 fun hback => ?_,
    Bool.eq_false_iff.2 fun hback => ?_⟩
  · exact absurd (hantisymm _ _ hlocal hback) (by decide)
  · exact absurd (hantisymm _ _ hmethod hback) (by decide)

end Scope

end BranchCover
