import BranchCover.Proofs.Model.Visit

/-!
# The branches of a function

A branch is recorded in a scope, and a function is given the `if` and `when` branches in its own. So
an `if` in the body of a function, outside the functions and classes inside it, is given to that
function and to the others with the same scope: overloaded functions share their branches.

* `InBody`: the constructs of a function's own body.
* `branchesFor_body`: the functions that a branch is given to.
-/

namespace BranchCover.Build

/-- A construct is in the body of another: inside it, and inside no function or class inside it. -/
inductive InBody (file : FileInfo) (outer : Visit) : Visit → Prop
  | direct {visit : Visit} : visit ∈ outer.inner file → InBody file outer visit
  | inner {visit other : Visit} : InBody file outer visit → visit.kind ≠ .function →
      visit.kind ≠ .classDecl → other ∈ visit.inner file → InBody file outer other

variable {file : FileInfo} {parsed : ParsedFile} {outer visit : Visit} {branch : Branch}

theorem Visit.inside_eq_position (hfunction : visit.kind ≠ .function)
    (hclass : visit.kind ≠ .classDecl) : visit.inside file = visit.position := by
  unfold Visit.inside
  split
  · exact absurd ‹_› hclass
  · exact absurd ‹_› hfunction
  · rfl

theorem InBody.position_eq (h : InBody file outer visit) : visit.position = outer.inside file := by
  induction h with
  | direct hinner => exact Visit.position_of_mem_inner hinner
  | inner _ hfunction hclass hinner ih =>
    rw [Visit.position_of_mem_inner hinner, Visit.inside_eq_position hfunction hclass, ih]

theorem InBody.mem_visits (h : InBody (infoOf parsed) outer visit)
    (houter : outer ∈ visits parsed) :
    visit ∈ visits parsed := by
  induction h with
  | direct hinner => exact mem_visits_of_mem_inner houter hinner
  | inner _ _ _ hinner ih => exact mem_visits_of_mem_inner ih hinner

/-- The constructs in the body of a function are in its scope. -/
theorem InBody.scope_eq (h : InBody file outer visit) (hkind : outer.kind = .function) :
    visit.position.scope = (outer.function file).scope := by
  rw [h.position_eq, Visit.inside, hkind]
  rfl

/-- A branch is recorded in the file and the scope where it is met. -/
theorem Visit.place_of_branch? (h : visit.branch? file = some branch) :
    branch.file = file.path ∧ branch.scope = visit.position.scope := by
  unfold Visit.branch? at h
  split at h
  · obtain rfl := Option.some.inj h
    exact ⟨rfl, rfl⟩
  · obtain rfl := Option.some.inj h
    exact ⟨rfl, rfl⟩
  · obtain ⟨parent, -, rfl⟩ := Option.map_eq_some_iff.1 h
    exact ⟨rfl, rfl⟩
  · cases h

theorem mem_functions_build_iff {function : FunctionDecl} :
    function ∈ (Model.build parsed).model.functions ↔
      ∃ visit ∈ visits parsed, visit.kind = .function ∧
        visit.function (infoOf parsed) = function := by
  rw [functions_build, List.mem_filterMap]
  simp only [Visit.function?, Option.ite_none_right_eq_some, Option.some.injEq]

theorem mem_branches_build_iff :
    branch ∈ (Model.build parsed).model.branches ↔
      ∃ visit ∈ visits parsed, visit.branch? (infoOf parsed) = some branch := by
  rw [branches_build, List.mem_filterMap]

/-- All functions of a file are recorded in it. -/
theorem file_of_mem_functions {function : FunctionDecl}
    (h : function ∈ (Model.build parsed).model.functions) : function.file = parsed.path := by
  obtain ⟨visit, -, -, rfl⟩ := mem_functions_build_iff.1 h
  rfl

/-- An `if` or `when` that is met in a scope is given to the functions of that scope. -/
theorem mem_branchesFor_iff {function : FunctionDecl} (hvisit : visit ∈ visits parsed)
    (hbranch : visit.branch? (infoOf parsed) = some branch) (hentry : branch.kind ≠ .whenEntry)
    (hfunction : function ∈ (Model.build parsed).model.functions) :
    branch ∈ (Model.build parsed).model.branchesFor function ↔
      visit.position.scope = function.scope := by
  obtain ⟨hfile, hscope⟩ := Visit.place_of_branch? hbranch
  have hmem := mem_branches_build_iff.2 ⟨visit, hvisit, hbranch⟩
  rw [Model.branchesFor, List.mem_filter]
  simp [hmem, hentry, hscope, hfile, file_of_mem_functions hfunction, infoOf]

/-- **An `if` or `when` in the body of a function is given to the functions of its file that have
the scope of that function, and to no others.** -/
theorem branchesFor_body (houter : outer ∈ visits parsed) (hkind : outer.kind = .function)
    (hbody : InBody (infoOf parsed) outer visit)
    (hbranch : visit.branch? (infoOf parsed) = some branch)
    (hentry : branch.kind ≠ .whenEntry) :
    outer.function (infoOf parsed) ∈ (Model.build parsed).model.functions ∧
      branch ∈ (Model.build parsed).model.branchesFor (outer.function (infoOf parsed)) ∧
      ∀ function ∈ (Model.build parsed).model.functions,
        (branch ∈ (Model.build parsed).model.branchesFor function ↔
          function.scope = (outer.function (infoOf parsed)).scope) := by
  have hfunction : outer.function (infoOf parsed) ∈ (Model.build parsed).model.functions :=
    mem_functions_build_iff.2 ⟨outer, houter, hkind, rfl⟩
  have hgiven : ∀ function ∈ (Model.build parsed).model.functions,
      (branch ∈ (Model.build parsed).model.branchesFor function ↔
        function.scope = (outer.function (infoOf parsed)).scope) := by
    intro function hmem
    rw [mem_branchesFor_iff (hbody.mem_visits houter) hbranch hentry hmem, hbody.scope_eq hkind,
      eq_comm]
  exact ⟨hfunction, (hgiven _ hfunction).2 rfl, hgiven⟩

/-! ### Examples -/

/-- A function with the constructs inside it. -/
def functionTree (name : String) (children : List SyntaxTree) : SyntaxTree :=
  .node { kind := .function, start := 0, stop := 1, name := some name } children

/-- A parameter. -/
def parameterTree (name typeName : String) : SyntaxTree :=
  .node { kind := .parameter, start := 0, stop := 1, name := some name, typeName := some typeName }
    []

/-- An `if`. -/
def ifTree (condition : String) : SyntaxTree :=
  .node { kind := .ifBranch, start := 0, stop := 1, condition := some condition } []

/-- A function `f` with a function `g` inside it, which has an `if`. -/
def nestedFile : ParsedFile where
  path := "a.kt"
  content := ""
  nodes := [functionTree "f" [functionTree "g" [ifTree "x > 1"]]]

/-- The `if` of the function `g` is given to it and not to the function `f` around it. -/
theorem branchesFor_body_nested :
    ∃ outer ∈ visits nestedFile, outer.kind = .function ∧
      (outer.function (infoOf nestedFile)).name = "g" ∧
      ∃ visit branch, InBody (infoOf nestedFile) outer visit ∧
        visit.branch? (infoOf nestedFile) = some branch ∧ branch.kind ≠ .whenEntry ∧
        branch ∈ (Model.build nestedFile).model.branchesFor (outer.function (infoOf nestedFile)) ∧
        ∃ function ∈ (Model.build nestedFile).model.functions, function.name = "f" ∧
          branch ∉ (Model.build nestedFile).model.branchesFor function := by
  obtain ⟨f, g, visit, branch, hroots, hf, hg, hbranch, hkinds, hnames, hscopes⟩ :
      ∃ f g visit branch, roots nestedFile = [f] ∧ f.inner (infoOf nestedFile) = [g] ∧
        g.inner (infoOf nestedFile) = [visit] ∧ visit.branch? (infoOf nestedFile) = some branch ∧
        (f.kind = .function ∧ g.kind = .function ∧ branch.kind = .ifBranch) ∧
        ((f.function (infoOf nestedFile)).name = "f" ∧
          (g.function (infoOf nestedFile)).name = "g") ∧
        (f.function (infoOf nestedFile)).scope ≠ (g.function (infoOf nestedFile)).scope :=
    ⟨_, _, _, _, rfl, rfl, rfl, rfl, by decide, by decide, by decide +kernel⟩
  have hfmem : f ∈ visits nestedFile := mem_visits_of_mem_roots (by simp [hroots])
  have hgmem : g ∈ visits nestedFile := mem_visits_of_mem_inner hfmem (by simp [hf])
  have hbody : InBody (infoOf nestedFile) g visit := .direct (by simp [hg])
  have hentry : branch.kind ≠ .whenEntry := by simp [hkinds]
  obtain ⟨-, hown, hgiven⟩ := branchesFor_body hgmem hkinds.2.1 hbody hbranch hentry
  have hfunction := mem_functions_build_iff.2 ⟨f, hfmem, hkinds.1, rfl⟩
  exact ⟨g, hgmem, hkinds.2.1, hnames.2, visit, branch, hbody, hbranch, hentry, hown,
    f.function (infoOf nestedFile), hfunction, hnames.1,
    fun hmem => hscopes ((hgiven _ hfunction).1 hmem)⟩

/-- Two functions `f`, the first with an `if`. -/
def overloadedFile : ParsedFile where
  path := "a.kt"
  content := ""
  nodes := [functionTree "f" [parameterTree "x" "Int", ifTree "x > 0"],
    functionTree "f" [parameterTree "s" "String"]]

/-- The `if` of the first function is given to the second one, too. -/
theorem branchesFor_overloaded :
    ∃ outer ∈ visits overloadedFile, outer.kind = .function ∧
      ∃ visit branch, InBody (infoOf overloadedFile) outer visit ∧
        visit.branch? (infoOf overloadedFile) = some branch ∧ branch.kind ≠ .whenEntry ∧
        ∃ function ∈ (Model.build overloadedFile).model.functions,
          function ≠ outer.function (infoOf overloadedFile) ∧
          branch ∈ (Model.build overloadedFile).model.branchesFor function := by
  obtain ⟨first, second, visit, branch, hroots, hfirst, hbranch, hkinds, hne, hscope⟩ :
      ∃ first second visit branch, roots overloadedFile = [first, second] ∧
        first.inner (infoOf overloadedFile) = [visit] ∧
        visit.branch? (infoOf overloadedFile) = some branch ∧
        (first.kind = .function ∧ second.kind = .function ∧ branch.kind = .ifBranch) ∧
        second.function (infoOf overloadedFile) ≠ first.function (infoOf overloadedFile) ∧
        visit.position.scope = (second.function (infoOf overloadedFile)).scope :=
    ⟨_, _, _, _, rfl, rfl, rfl, by decide, by decide +kernel, by decide +kernel⟩
  have hmem : first ∈ visits overloadedFile := mem_visits_of_mem_roots (by simp [hroots])
  have hbody : InBody (infoOf overloadedFile) first visit := .direct (by simp [hfirst])
  have hentry : branch.kind ≠ .whenEntry := by simp [hkinds]
  have hsecond : second ∈ visits overloadedFile := mem_visits_of_mem_roots (by simp [hroots])
  have hfunction := mem_functions_build_iff.2 ⟨second, hsecond, hkinds.2.1, rfl⟩
  exact ⟨first, hmem, hkinds.1, visit, branch, hbody, hbranch, hentry, _, hfunction, hne,
    (mem_branchesFor_iff (hbody.mem_visits hmem) hbranch hentry hfunction).2 hscope⟩

end BranchCover.Build
