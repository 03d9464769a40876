import BranchCover.Proofs.Model.Visit
import Mathlib.Data.List.Flatten

/-!
# The numbers of branches

The walk through a file gives each branch the next number, so the branches of a file are numbered in
the order in which they are recorded. An entry of a `when` has the number of the `when` that it
stands directly in.

* `Numbered`: branches with consecutive numbers.
* `numbered_build`: the branches of a file are numbered from zero.
* `exists_when_of_mem_visits`: the `when` whose number an entry has.
-/

namespace BranchCover.Build

/-- Branches with consecutive numbers, from a first one on. -/
def Numbered (next : ℕ) (branches : List Branch) : Prop :=
  ∀ (i : ℕ) (branch : Branch), branches[i]? = some branch → branch.id = (next + i : ℕ)

section Numbered

variable {next : ℕ} {branches first second : List Branch} {branch other : Branch}

theorem numbered_nil (next : ℕ) : Numbered next [] := by
  intro i branch h
  simp at h

theorem numbered_singleton (h : branch.id = next) : Numbered next [branch] := by
  intro i other hother
  cases i with
  | zero =>
    obtain rfl := Option.some.inj hother
    exact h
  | succ i => simp at hother

theorem Numbered.append (hfirst : Numbered next first)
    (hsecond : Numbered (next + first.length) second) :
    Numbered next (first ++ second) := by
  intro i branch h
  by_cases hi : i < first.length
  · rw [List.getElem?_append_left hi] at h
    exact hfirst i branch h
  · rw [List.getElem?_append_right (by omega)] at h
    have hid := hsecond _ branch h
    omega

/-- Consecutive numbers increase. -/
theorem Numbered.pairwise (h : Numbered next branches) :
    branches.Pairwise fun branch other => branch.id < other.id := by
  refine List.pairwise_iff_getElem.2 fun i j hi hj hij => ?_
  rw [h i _ (List.getElem?_eq_getElem hi), h j _ (List.getElem?_eq_getElem hj)]
  omega

end Numbered

variable {file : FileInfo} {position : Position} {next : ℕ} {parent : Option ℕ}
  {parameters : ParameterUse} {trees : List SyntaxTree} {visit other : Visit} {branch : Branch}
  {parsed : ParsedFile}

/-! ### The record of a visit -/

/-- A branch has the number that it is met with. An `if` and a `when` stand in no other branch, and
an entry has the number of the `when` that it is met with. -/
theorem Visit.branch?_cases (h : visit.branch? file = some branch) :
    branch.id = visit.next ∧
      (branch.kind = .ifBranch ∧ branch.parentId = none ∨
        branch.kind = .when ∧ visit.kind = .when ∧ branch.parentId = none ∨
        branch.kind = .whenEntry ∧ visit.kind = .whenEntry ∧
          ∃ number, visit.parent = some number ∧ branch.parentId = some (number : Int)) := by
  unfold Visit.branch? at h
  split at h
  · obtain rfl := Option.some.inj h
    exact ⟨rfl, Or.inl ⟨rfl, rfl⟩⟩
  · obtain rfl := Option.some.inj h
    exact ⟨rfl, Or.inr (Or.inl ⟨rfl, ‹_›, rfl⟩)⟩
  · obtain ⟨number, hnumber, rfl⟩ := Option.map_eq_some_iff.1 h
    exact ⟨rfl, Or.inr (Or.inr ⟨rfl, ‹_›, number, hnumber, rfl⟩)⟩
  · cases h

theorem Visit.branch?_when (h : visit.kind = .when) :
    visit.branch? file = some (whenOf file visit.position visit.next visit.tree.label) := by
  rw [Visit.branch?, h]

theorem Visit.branch?_whenEntry {number : ℕ} (h : visit.kind = .whenEntry)
    (hparent : visit.parent = some number) :
    visit.branch? file = some (entryOf file visit.position visit.next number visit.tree.label) := by
  rw [Visit.branch?, h, hparent]
  rfl

/-! ### Numbers along the walk -/

theorem nextAfter_eq (next : ℕ) (found : List Finding) :
    nextAfter next found = next + (found.filterMap findingBranch?).length := by
  rw [nextAfter, List.length_filterMap_eq_countP]
  congr 2
  funext finding
  cases finding <;> rfl

/-- The branches of several trees are numbered one tree after another. -/
theorem numbered_visitsOf
    (h : ∀ visit ∈ visitsOf file position next parent parameters trees,
      Numbered visit.next ((visit.found file).filterMap findingBranch?)) :
    Numbered next ((findingsAll file position next parent parameters trees).filterMap
      findingBranch?) := by
  rw [filterMap_findingsAll fun _ => rfl]
  induction trees generalizing next with
  | nil => exact numbered_nil next
  | cons tree rest ih =>
    rw [visitsOf] at h ⊢
    split_ifs at h ⊢ with hskip
    · exact ih h
    · rw [List.forall_mem_cons] at h
      rw [List.flatMap_cons]
      refine h.1.append ?_
      rw [Visit.found, ← nextAfter_eq]
      exact ih h.2

/-- The branches of a construct are numbered from the number that it is met with. -/
theorem Visit.numbered_found (file : FileInfo) (visit : Visit) :
    Numbered visit.next ((visit.found file).filterMap findingBranch?) := by
  -- the construct itself takes the first number, if any, those inside it the next ones, and its end
  -- none
  induction visit using Visit.inner_induction file with
  | step visit ih =>
    have hheading : Numbered visit.next ((visit.heading file).filterMap findingBranch?) := by
      rw [filterMap_heading_branch]
      cases hbranch : visit.branch? file with
      | none => exact numbered_nil _
      | some branch => exact numbered_singleton (Visit.branch?_cases hbranch).1
    by_cases herror : visit.kind = .error
    · rwa [Visit.found_error herror]
    · have hclosing : (visit.closing file).filterMap findingBranch? = [] := by
        unfold Visit.closing
        split_ifs <;> rfl
      rw [Visit.inner, if_neg herror] at ih
      rw [Visit.found_eq herror, List.filterMap_append, List.filterMap_append, hclosing,
        List.append_nil]
      refine hheading.append ?_
      rw [← nextAfter_eq]
      exact numbered_visitsOf ih

/-- **The branches of a file are numbered from zero.** -/
theorem numbered_build (parsed : ParsedFile) : Numbered 0 (Model.build parsed).model.branches :=
  numbered_visitsOf fun visit _ => visit.numbered_found (infoOf parsed)

/-! ### The construct around a construct -/

theorem map_tree_visitsOf (file : FileInfo) (position : Position) (next : ℕ) (parent : Option ℕ)
    (trees : List SyntaxTree) :
    (visitsOf file position next parent .visit trees).map (·.tree) = trees := by
  induction trees generalizing next with
  | nil => rfl
  | cons tree rest ih => rw [visitsOf, if_neg (by simp), List.map_cons, ih]

/-- Everything inside a `when` is met with greater numbers. -/
theorem Visit.next_lt_of_mem_inner (hkind : visit.kind = .when) (h : other ∈ visit.inner file) :
    visit.next < other.next := by
  have hinner : visit.innerNext file = visit.next + 1 := by
    rw [Visit.innerNext, nextAfter_eq, filterMap_heading_branch, Visit.branch?_when hkind]
    rfl
  have hle := (Visit.of_mem_inner h).2.2.2
  omega

/-- All that is written in a `when` is met. -/
theorem Visit.map_tree_inner (hkind : visit.kind = .when) :
    (visit.inner file).map (·.tree) = visit.tree.children := by
  have hparameters : visit.innerParameters = .visit := by rw [Visit.innerParameters, hkind]
  rw [Visit.inner, if_neg (by simp [hkind]), hparameters]
  exact map_tree_visitsOf ..

theorem Visit.eq_or_mem_inner_of_mem_walk (h : other ∈ visit.walk file) :
    other = visit ∨ ∃ outer ∈ visit.walk file, other ∈ outer.inner file := by
  induction visit using Visit.inner_induction file with
  | step visit ih =>
    rw [Visit.walk_eq] at h ⊢
    rcases List.mem_cons.1 h with rfl | h
    · exact Or.inl rfl
    · obtain ⟨between, hbetween, h⟩ := List.mem_flatMap.1 h
      rcases ih between hbetween h with rfl | ⟨outer, houter, hinner⟩
      · exact Or.inr ⟨visit, List.mem_cons_self, hbetween⟩
      · exact Or.inr ⟨outer, List.mem_cons_of_mem _
          (List.mem_flatMap.2 ⟨between, hbetween, houter⟩), hinner⟩

/-- A construct that is met with the number of a `when` stands directly in that `when`. -/
theorem exists_when_of_mem_visits {number : ℕ} (h : visit ∈ visits parsed)
    (hparent : visit.parent = some number) :
    ∃ outer ∈ visits parsed, outer.kind = .when ∧ outer.next = number ∧
      visit ∈ outer.inner (infoOf parsed) := by
  obtain ⟨root, hroot, hwalk⟩ := List.mem_flatMap.1 h
  rcases Visit.eq_or_mem_inner_of_mem_walk hwalk with rfl | ⟨outer, houter, hinner⟩
  · rw [(of_mem_visitsOf hroot).2.2.1] at hparent
    cases hparent
  · rw [Visit.parent_of_mem_inner hinner, Visit.innerParent] at hparent
    split_ifs at hparent with hkind
    exact ⟨outer, List.mem_flatMap.2 ⟨root, hroot, houter⟩, hkind, Option.some.inj hparent, hinner⟩

/-- The constructs directly inside a construct are met in the order in which they are written. -/
theorem Visit.inner_sublist_walk (h : other ∈ visit.walk file) :
    (other.inner file).Sublist (visit.walk file) := by
  induction visit using Visit.inner_induction file with
  | step visit ih =>
    rw [Visit.walk_eq] at h ⊢
    refine List.Sublist.cons _ ?_
    rcases List.mem_cons.1 h with rfl | h
    · have hwalk : ((other.inner file).flatMap fun inner => [inner]).Sublist
          ((other.inner file).flatMap (Visit.walk file)) :=
        List.Sublist.flatMap_right _ fun inner _ => List.singleton_sublist.2 inner.mem_walk_self
      rwa [List.flatMap_singleton'] at hwalk
    · obtain ⟨between, hbetween, h⟩ := List.mem_flatMap.1 h
      exact (ih between hbetween h).trans
        (List.sublist_flatten_of_mem (List.mem_map_of_mem hbetween))

theorem inner_sublist_visits (h : visit ∈ visits parsed) :
    (visit.inner (infoOf parsed)).Sublist (visits parsed) := by
  obtain ⟨root, hroot, hwalk⟩ := List.mem_flatMap.1 h
  exact (Visit.inner_sublist_walk hwalk).trans
    (List.sublist_flatten_of_mem (List.mem_map_of_mem hroot))

end BranchCover.Build
