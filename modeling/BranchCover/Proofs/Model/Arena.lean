import BranchCover.Proofs.Model.Merge
import BranchCover.Proofs.Model.Numbering
import Mathlib.Data.List.Pairwise

/-!
# The branches of several files

The branches of several files stand in one list, in which each has its place as its number. The
entries of a `when` refer to it by its number, and they are found by that number again, however the
files before it and the `when`s inside its entries are numbered.

* `Site`: a construct that is met in one of several files.
* `branches_modelOf`: the branches of several files are those of the constructs that are met.
* `entriesFor_site`: the entries of a `when` are what stands directly in it.
* `branchArena`: the list of branches as a whole.
-/

namespace BranchCover.Build

/-- The model of several files. -/
def modelOf (files : List ParsedFile) : Model := (BuildResult.merge (files.map Model.build)).model

/-- A construct that is met in one of several files, with the files before its own. -/
structure Site where
  before : List ParsedFile
  file : ParsedFile
  visit : Visit

namespace Site

/-- How many branches stand before those of the file. -/
def offset (site : Site) : ℕ := (modelOf site.before).branches.length

/-- The record of a construct that is a branch, numbered behind the branches of the files before. -/
def branch? (site : Site) : Option Branch :=
  (site.visit.branch? (infoOf site.file)).map (Model.shiftBranch site.offset)

/-- The constructs that are met directly inside a construct. -/
def inner (site : Site) : List Site :=
  (site.visit.inner (infoOf site.file)).map fun visit => { site with visit }

end Site

/-- The constructs that are met in several files behind others. -/
def sitesFrom (before : List ParsedFile) : List ParsedFile → List Site
  | [] => []
  | file :: rest =>
    (visits file).map (fun visit => { before, file, visit }) ++ sitesFrom (before ++ [file]) rest

/-- The constructs that are met in several files, one file after another. -/
def sites (files : List ParsedFile) : List Site := sitesFrom [] files

variable {before files : List ParsedFile} {site other : Site} {branch entry : Branch}

/-! ### The branches of a model -/

theorem modelOf_concat (files : List ParsedFile) (file : ParsedFile) :
    modelOf (files ++ [file]) = (modelOf files).append (Model.build file).model := by
  simp only [modelOf, BuildResult.merge, List.map_append, List.map_cons, List.map_nil,
    Model.merge_concat]

/-- The branches of several files behind others are those of the constructs that are met. -/
theorem branches_modelOf_append (before files : List ParsedFile) :
    (modelOf (before ++ files)).branches =
      (modelOf before).branches ++ (sitesFrom before files).filterMap Site.branch? := by
  induction files generalizing before with
  | nil => simp [sitesFrom]
  | cons file rest ih =>
    have hfile : ((visits file).map fun visit =>
      ({ before, file, visit } : Site)).filterMap Site.branch? =
        (Model.build file).model.branches.map
        (Model.shiftBranch (modelOf before).branches.length) := by
      rw [branches_build, List.filterMap_map, List.map_filterMap]
      rfl
    rw [List.append_cons, ih, modelOf_concat, sitesFrom, List.filterMap_append, hfile,
      ← List.append_assoc]
    rfl

theorem branches_modelOf (files : List ParsedFile) :
    (modelOf files).branches = (sites files).filterMap Site.branch? :=
  branches_modelOf_append [] files

theorem Numbered.map_shiftBranch {branches : List Branch} {next : ℕ} (h : Numbered next branches)
    (offset : ℕ) : Numbered (next + offset) (branches.map (Model.shiftBranch offset)) := by
  intro i branch hbranch
  rw [List.getElem?_map] at hbranch
  obtain ⟨own, hown, rfl⟩ := Option.map_eq_some_iff.1 hbranch
  have hid := h i own hown
  show own.id + offset = _
  omega

/-- Each branch has its place as its number. -/
theorem numbered_modelOf (files : List ParsedFile) : Numbered 0 (modelOf files).branches := by
  induction files using List.reverseRecOn with
  | nil => exact numbered_nil 0
  | append_singleton files file ih =>
    rw [modelOf_concat]
    refine ih.append ?_
    exact (numbered_build file).map_shiftBranch _

/-! ### Sites -/

theorem Site.offset_congr (h : other.before = site.before) : other.offset = site.offset := by
  rw [Site.offset, h, Site.offset]

theorem Site.branch?_cases (h : site.branch? = some branch) :
    branch.id = (site.visit.next + site.offset : ℕ) ∧
      (branch.kind = .ifBranch ∧ branch.parentId = none ∨
        branch.kind = .when ∧ site.visit.kind = .when ∧ branch.parentId = none ∨
        branch.kind = .whenEntry ∧ site.visit.kind = .whenEntry ∧
          ∃ number, site.visit.parent = some number ∧
            branch.parentId = some ((number + site.offset : ℕ) : Int)) := by
  obtain ⟨own, hown, rfl⟩ := Option.map_eq_some_iff.1 h
  obtain ⟨hid, hcases⟩ := Visit.branch?_cases hown
  refine ⟨by simp [Model.shiftBranch, hid], ?_⟩
  rcases hcases with ⟨hkind, hparent⟩ | ⟨hkind, hwhen, hparent⟩ |
    ⟨hkind, hentry, number, hnumber, hparent⟩
  · exact Or.inl ⟨hkind, by simp [Model.shiftBranch, hparent]⟩
  · exact Or.inr (Or.inl ⟨hkind, hwhen, by simp [Model.shiftBranch, hparent]⟩)
  · exact Or.inr (Or.inr ⟨hkind, hentry, number, hnumber, by simp [Model.shiftBranch, hparent]⟩)

/-- Only entries stand in a branch. -/
theorem Site.parentId_eq_none (h : site.branch? = some branch) (hkind : branch.kind ≠ .whenEntry) :
    branch.parentId = none := by
  obtain ⟨-, ⟨-, hnone⟩ | ⟨-, -, hnone⟩ | ⟨hentry, -⟩⟩ := Site.branch?_cases h
  · exact hnone
  · exact hnone
  · exact absurd hentry hkind

theorem Site.kind_eq_when (h : site.branch? = some branch) (hkind : branch.kind = .when) :
    site.visit.kind = .when := by
  obtain ⟨-, ⟨hif, -⟩ | ⟨-, hwhen, -⟩ | ⟨hentry, -⟩⟩ := Site.branch?_cases h
  · simp [hif] at hkind
  · exact hwhen
  · simp [hentry] at hkind

/-- An entry has the number of a `when` that it is met with. -/
theorem Site.parent_of_whenEntry (h : site.branch? = some branch)
    (hkind : branch.kind = .whenEntry) :
    site.visit.kind = .whenEntry ∧ ∃ number, site.visit.parent = some number ∧
      branch.parentId = some ((number + site.offset : ℕ) : Int) := by
  obtain ⟨-, ⟨hif, -⟩ | ⟨hwhen, -⟩ | ⟨-, hentry⟩⟩ := Site.branch?_cases h
  · simp [hif] at hkind
  · simp [hwhen] at hkind
  · exact hentry

/-- All constructs of the file of a site are sites, in their order. -/
theorem Site.file_sublist (h : site ∈ sitesFrom before files) :
    site.visit ∈ visits site.file ∧
      ((visits site.file).map fun visit =>
        { site with visit }).Sublist (sitesFrom before files) := by
  induction files generalizing before with
  | nil => cases h
  | cons file rest ih =>
    rcases List.mem_append.1 h with h | h
    · obtain ⟨visit, hvisit, rfl⟩ := List.mem_map.1 h
      exact ⟨hvisit, List.sublist_append_left _ _⟩
    · obtain ⟨hvisit, hsublist⟩ := ih h
      exact ⟨hvisit, hsublist.trans (List.sublist_append_right _ _)⟩

theorem Site.inner_sublist (h : site ∈ sites files) : site.inner.Sublist (sites files) := by
  obtain ⟨hvisit, hsublist⟩ := Site.file_sublist h
  exact ((inner_sublist_visits hvisit).map _).trans hsublist

/-- A construct that is met with the number of a `when` stands directly in that `when`, in the same
file. -/
theorem Site.exists_when {number : ℕ} (h : site ∈ sites files)
    (hparent : site.visit.parent = some number) :
    ∃ outer ∈ sites files, outer.before = site.before ∧ outer.file = site.file ∧
      outer.visit.kind = .when ∧ outer.visit.next = number ∧ site ∈ outer.inner := by
  obtain ⟨hvisit, hsublist⟩ := Site.file_sublist h
  obtain ⟨outer, houter, hkind, hnext, hinner⟩ := exists_when_of_mem_visits hvisit hparent
  exact ⟨{ site with visit := outer }, hsublist.subset (List.mem_map_of_mem houter), rfl, rfl,
    hkind, hnext, List.mem_map_of_mem hinner⟩

/-- The branches that two constructs give, if any, have different numbers. -/
def Site.Apart (site other : Site) : Prop :=
  ∀ branch entry, site.branch? = some branch → other.branch? = some entry → branch.id ≠ entry.id

instance : Std.Symm Site.Apart where
  symm _ _ h branch entry hbranch hentry := (h entry branch hentry hbranch).symm

/-- Different constructs have different numbers. -/
theorem Site.eq_of_id_eq (hsite : site ∈ sites files) (hother : other ∈ sites files)
    (hbranch : site.branch? = some branch) (hentry : other.branch? = some entry)
    (hid : branch.id = entry.id) :
    site = other := by
  have hpairwise := (numbered_modelOf files).pairwise
  rw [branches_modelOf, List.pairwise_filterMap] at hpairwise
  have hapart : (sites files).Pairwise Site.Apart :=
    hpairwise.imp fun hlt branch entry hbranch hentry =>
      Int.ne_of_lt (hlt branch hbranch entry hentry)
  by_contra hne
  exact hapart.forall hsite hother hne branch entry hbranch hentry hid

/-! ### The entries of a `when` -/

theorem Site.mem_inner_iff : other ∈ site.inner ↔
    other.visit ∈ site.visit.inner (infoOf site.file) ∧ other.before = site.before ∧
    other.file = site.file := by
  rw [Site.inner, List.mem_map]
  constructor
  · rintro ⟨visit, hvisit, rfl⟩
    exact ⟨hvisit, rfl, rfl⟩
  · obtain ⟨before, file, visit⟩ := other
    rintro ⟨hvisit, rfl, rfl⟩
    exact ⟨visit, hvisit, rfl⟩

theorem Site.map_tree_inner (h : site.visit.kind = .when) :
    site.inner.map (·.visit.tree) = site.visit.tree.children := by
  rw [Site.inner, List.map_map]
  exact Visit.map_tree_inner h

theorem Site.branch?_when (h : site.visit.kind = .when) :
    ∃ branch, site.branch? = some branch ∧ branch.kind = .when := by
  rw [Site.branch?, Visit.branch?_when h]
  exact ⟨_, rfl, rfl⟩

/-- The `when` that an entry stands directly in, in the same file, is recorded before it, and the
entry has its number. -/
theorem Site.exists_parent (hsite : site ∈ sites files) (hentry : site.branch? = some entry)
    (hkind : entry.kind = .whenEntry) :
    ∃ outer ∈ sites files, outer.before = site.before ∧ outer.file = site.file ∧
      site ∈ outer.inner ∧
      ∃ parent, outer.branch? = some parent ∧ parent.kind = .when ∧
        entry.parentId = some parent.id ∧
        parent.id < entry.id := by
  obtain ⟨-, number, hnumber, hid⟩ := Site.parent_of_whenEntry hentry hkind
  obtain ⟨outer, houter, hbefore, hfile, houterKind, hnext, hinner⟩ :=
    Site.exists_when hsite hnumber
  obtain ⟨parent, hparent, hparentKind⟩ := Site.branch?_when houterKind
  have hparentId : parent.id = (number + site.offset : ℕ) := by
    rw [(Site.branch?_cases hparent).1, hnext, Site.offset_congr hbefore]
  have hlt := Visit.next_lt_of_mem_inner houterKind (Site.mem_inner_iff.1 hinner).1
  refine ⟨outer, houter, hbefore, hfile, hinner, parent, hparent, hparentKind,
    by rw [hid, hparentId], ?_⟩
  rw [hparentId, (Site.branch?_cases hentry).1]
  omega

/-- What stands in a `when` as an entry is recorded as an entry of it. -/
theorem Site.branch?_inner (hkind : site.visit.kind = .when) (hbranch : site.branch? = some branch)
    (hinner : other ∈ site.inner) (hother : other.visit.kind = .whenEntry) :
    ∃ entry, other.branch? = some entry ∧ entry.kind = .whenEntry ∧
      entry.parentId = some branch.id := by
  obtain ⟨hvisit, hbefore, hfile⟩ := Site.mem_inner_iff.1 hinner
  have hparent : other.visit.parent = some site.visit.next := by
    rw [Visit.parent_of_mem_inner hvisit, Visit.innerParent, if_pos hkind]
  rw [(Site.branch?_cases hbranch).1, Site.branch?, Visit.branch?_whenEntry hother hparent,
    Site.offset_congr hbefore]
  exact ⟨_, rfl, rfl, rfl⟩

/-- An entry that is recorded with the number of a `when` stands directly in it. -/
theorem Site.mem_inner_of_parentId (hsite : site ∈ sites files)
    (hbranch : site.branch? = some branch)
    (hother : other ∈ sites files) (hentry : other.branch? = some entry)
    (hkind : entry.kind = .whenEntry)
    (hparent : entry.parentId = some branch.id) :
      other ∈ site.inner ∧ other.visit.kind = .whenEntry := by
  obtain ⟨outer, houter, -, -, hinner, parent, hrecord, -, hid, -⟩ :=
    Site.exists_parent hother hentry hkind
  obtain rfl := Site.eq_of_id_eq houter hsite hrecord hbranch
    (Option.some.inj (hid.symm.trans hparent))
  exact ⟨hinner, (Site.parent_of_whenEntry hentry hkind).1⟩

/-- Lists of branches with increasing numbers are equal if they have the same members. -/
theorem eq_of_mem_iff {first second : List Branch}
    (hfirst : first.Pairwise fun branch entry => branch.id < entry.id)
    (hsecond : second.Pairwise fun branch entry => branch.id < entry.id)
    (h : ∀ branch, branch ∈ first ↔ branch ∈ second) : first = second := by
  have hnodup : ∀ {branches : List Branch},
      branches.Pairwise (fun branch entry => branch.id < entry.id) → branches.Nodup := fun hlt =>
    hlt.imp fun hid heq => by simp [heq] at hid
  refine ((List.perm_ext_iff_of_nodup (hnodup hfirst) (hnodup hsecond)).2 h).eq_of_pairwise ?_
    hfirst hsecond
  intro branch entry _ _ hlt hgt
  omega

/-- **The entries of a `when` are what stands directly in it as an entry, in the order in which it
is written.** -/
theorem entriesFor_site (hsite : site ∈ sites files) (hkind : site.visit.kind = .when)
    (hbranch : site.branch? = some branch) :
    (modelOf files).entriesFor branch =
      (site.inner.filter (·.visit.kind = .whenEntry)).filterMap Site.branch? := by
  have hsublist : ((site.inner.filter (·.visit.kind = .whenEntry)).filterMap Site.branch?).Sublist
      (modelOf files).branches := by
    rw [branches_modelOf]
    exact ((List.filter_sublist).trans (Site.inner_sublist hsite)).filterMap _
  -- both sides keep the order of the numbers, so it is enough to compare their members
  have hpairwise := (numbered_modelOf files).pairwise
  refine eq_of_mem_iff (hpairwise.filter _) (hpairwise.sublist hsublist) fun entry => ?_
  constructor
  · intro hmem
    obtain ⟨hmem, hentry⟩ := List.mem_filter.1 hmem
    rw [Bool.and_eq_true, beq_iff_eq, beq_iff_eq] at hentry
    rw [branches_modelOf, List.mem_filterMap] at hmem
    obtain ⟨other, hother, hrecord⟩ := hmem
    have hinner := Site.mem_inner_of_parentId hsite hbranch hother hrecord hentry.1 hentry.2
    exact List.mem_filterMap.2 ⟨other, List.mem_filter.2 ⟨hinner.1, by simp [hinner.2]⟩, hrecord⟩
  · intro hmem
    have hbranches := hsublist.subset hmem
    obtain ⟨other, hother, hrecord⟩ := List.mem_filterMap.1 hmem
    obtain ⟨hinner, hotherKind⟩ := List.mem_filter.1 hother
    obtain ⟨own, hown, hownKind, hparent⟩ :=
      Site.branch?_inner hkind hbranch hinner (by simpa using hotherKind)
    obtain rfl := Option.some.inj (hown.symm.trans hrecord)
    exact List.mem_filter.2 ⟨hbranches, by simp [hownKind, hparent]⟩

/-- **The list of branches of several files.** It holds the branches of the constructs that are met,
each at the place that is its number. An `if` and a `when` stand in no branch; an entry stands in an
earlier `when` of its own file; and the entries of a `when` are made from what is written directly
in it as an entry. -/
theorem branchArena (files : List ParsedFile) :
    (modelOf files).branches = (sites files).filterMap Site.branch? ∧
      (∀ (i : ℕ) (branch : Branch), (modelOf files).branches[i]? = some branch → branch.id = i) ∧
      (∀ branch ∈ (modelOf files).branches, branch.kind ≠ .whenEntry → branch.parentId = none) ∧
      (∀ site ∈ sites files, ∀ entry, site.branch? = some entry → entry.kind = .whenEntry →
        ∃ outer ∈ sites files, outer.before = site.before ∧ outer.file = site.file ∧
          ∃ parent, outer.branch? = some parent ∧ parent.kind = .when ∧
            entry.parentId = some parent.id ∧ parent.id < entry.id) ∧
      ∀ site ∈ sites files, ∀ branch, site.branch? = some branch → branch.kind = .when →
        site.inner.map (·.visit.tree) = site.visit.tree.children ∧
          ((modelOf files).entriesFor branch).map some =
            (site.inner.filter (·.visit.kind = .whenEntry)).map Site.branch? := by
  refine ⟨branches_modelOf files, fun i branch h => ?_, fun branch hmem hkind => ?_,
    fun site hsite entry hentry hkind => ?_, fun site hsite branch hbranch hkind => ?_⟩
  · simpa using numbered_modelOf files i branch h
  · rw [branches_modelOf, List.mem_filterMap] at hmem
    obtain ⟨site, -, hrecord⟩ := hmem
    exact Site.parentId_eq_none hrecord hkind
  · obtain ⟨outer, houter, hbefore, hfile, -, hparent⟩ := Site.exists_parent hsite hentry hkind
    exact ⟨outer, houter, hbefore, hfile, hparent⟩
  · have hwhen := Site.kind_eq_when hbranch hkind
    refine ⟨Site.map_tree_inner hwhen, ?_⟩
    rw [entriesFor_site hsite hwhen hbranch, List.map_filterMap, ← List.filterMap_eq_map]
    refine List.filterMap_congr fun inner hinner => ?_
    obtain ⟨hmem, hinnerKind⟩ := List.mem_filter.1 hinner
    obtain ⟨entry, hentry, -⟩ := Site.branch?_inner hwhen hbranch hmem (by simpa using hinnerKind)
    simp [hentry]

/-- A `when` with the constructs inside it. -/
def whenTree (subject : String) (children : List SyntaxTree) : SyntaxTree :=
  .node { kind := .when, start := 0, stop := 1, condition := some subject } children

/-- An entry of a `when` with the constructs inside it. -/
def entryTree (cases : String) (children : List SyntaxTree) : SyntaxTree :=
  .node { kind := .whenEntry, start := 0, stop := 1, condition := some cases } children

/-- A `when` with two entries, the first of which has a `when` inside it. -/
def nestedWhenFile (path : String) : ParsedFile where
  path
  content := ""
  nodes := [whenTree "x" [entryTree "1" [whenTree "y" [entryTree "2" []]], entryTree "else" []]]

/-- A construct in the second of two such files. -/
def secondSite (visit : Visit) : Site where
  before := [nestedWhenFile "a.kt"]
  file := nestedWhenFile "b.kt"
  visit

/-- The five branches of the first file come before those of the second, in which the outer `when`
has two entries, one on each side of the inner `when`. -/
theorem branchArena_nested :
    ∃ site ∈ sites [nestedWhenFile "a.kt", nestedWhenFile "b.kt"], ∃ branch,
      site.branch? = some branch ∧ branch.kind = .when ∧ branch.id = 5 ∧
        ((modelOf [nestedWhenFile "a.kt", nestedWhenFile "b.kt"]).entriesFor branch).map
          (fun entry => (entry.id, entry.parentId)) = [(6, some 5), (9, some 5)] := by
  obtain ⟨visit, branch, hroots, hbranch, hkind, hid, hinner⟩ :
      ∃ visit branch, roots (nestedWhenFile "b.kt") = [visit] ∧
        (secondSite visit).branch? = some branch ∧
        branch.kind = .when ∧ branch.id = 5 ∧
        (((secondSite visit).inner.filter (·.visit.kind = .whenEntry)).map Site.branch?).map
            (Option.map fun entry => (entry.id, entry.parentId)) =
          [some (6, some 5), some (9, some 5)] :=
    ⟨_, _, rfl, rfl, rfl, by decide, by decide⟩
  have hvisit : visit ∈ visits (nestedWhenFile "b.kt") := mem_visits_of_mem_roots (by simp [hroots])
  have hsite : secondSite visit ∈ sites [nestedWhenFile "a.kt", nestedWhenFile "b.kt"] :=
    List.mem_append_right _ (List.mem_append_left _ (List.mem_map_of_mem hvisit))
  obtain ⟨-, -, -, -, hentries⟩ := branchArena [nestedWhenFile "a.kt", nestedWhenFile "b.kt"]
  refine ⟨secondSite visit, hsite, branch, hbranch, hkind, hid, ?_⟩
  rw [← (hentries _ hsite branch hbranch hkind).2, List.map_map] at hinner
  refine List.map_injective_iff.2 (fun _ _ => Option.some.inj) ?_
  rw [List.map_map]
  exact hinner

end BranchCover.Build
