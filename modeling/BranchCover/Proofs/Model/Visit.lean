import BranchCover.Model.Build
import Mathlib.Data.List.Perm.Basic

/-!
# The walk through a file

The syntax of a file is walked in the order in which it is written. A *visit* is a construct where
the walk meets it, with the place and the numbers that it is met with. What a file gives, apart from
the variables and the records of its classes, stands in the order of the visits.

* `Visit`: a construct on the walk.
* `Visit.inner`: the constructs that are met directly inside a construct.
* `visits`: all constructs of a file that are met, each before those inside it.
* `filterMap_findings`: the records of a file are those of its visits.
* `Visit.given`, `findings_perm`: all that a file gives, with the constructs that it is made from.
-/

namespace BranchCover.Build

/-- A construct where the walk meets it; see `ownFindings` for `next` and `parent`. -/
structure Visit where
  tree : SyntaxTree
  position : Position
  next : ℕ
  parent : Option ℕ

namespace Visit

/-- What kind of construct is visited. -/
def kind (visit : Visit) : NodeKind := visit.tree.label.kind

/-- All findings of a construct and of those inside it. -/
def found (file : FileInfo) (visit : Visit) : List Finding :=
  findings file visit.position visit.next visit.parent visit.tree

/-- The record of a visited function. -/
def function (file : FileInfo) (visit : Visit) : FunctionDecl :=
  functionOf file visit.position visit.tree.label (visit.tree.children.map (·.label))

/-- The record of a visited class. -/
def classDecl (file : FileInfo) (visit : Visit) : ClassDecl :=
  classOf file visit.position visit.tree.label (visit.tree.children.map (·.label))

/-- What a construct gives before the constructs inside it. -/
def heading (file : FileInfo) (visit : Visit) : List Finding :=
  match visit.kind with
  | .classDecl =>
    let decl := visit.classDecl file
    [.classLines decl.line decl.endLine decl.scope decl.qualifiedName]
  | .function => [.function (visit.function file) visit.position.className]
  | _ => ownFindings file visit.position visit.next visit.parent visit.tree.label

/-- What a construct gives behind the constructs inside it. -/
def closing (file : FileInfo) (visit : Visit) : List Finding :=
  if visit.kind = .classDecl then [.classDecl (visit.classDecl file)] else []

/-- The position of the constructs inside a construct. -/
def inside (file : FileInfo) (visit : Visit) : Position :=
  match visit.kind with
  | .classDecl => inClass file visit.position visit.tree.label
  | .function => inFunction visit.position (visit.function file)
  | _ => visit.position

/-- The number of the first branch inside a construct. -/
def innerNext (file : FileInfo) (visit : Visit) : ℕ := nextAfter visit.next (visit.heading file)

/-- The number of the `when` that the constructs inside a construct stand directly in. -/
def innerParent (visit : Visit) : Option ℕ := if visit.kind = .when then some visit.next else none

/-- How the parameters directly inside a construct are treated. -/
def innerParameters (visit : Visit) : ParameterUse :=
  match visit.kind with
  | .classDecl => .declare
  | .function => .skip
  | _ => .visit

end Visit

/-- The visits of several trees, one tree after another. -/
def visitsOf (file : FileInfo) (position : Position) (next : ℕ) (parent : Option ℕ)
    (parameters : ParameterUse) : List SyntaxTree → List Visit
  | [] => []
  | tree :: rest =>
    if tree.label.kind = .parameter ∧ parameters ≠ .visit then
      visitsOf file position next parent parameters rest
    else
      { tree, position, next, parent } ::
        visitsOf file position (nextAfter next (findings file position next parent tree)) parent
          parameters rest

/-- The constructs that are met directly inside a construct; none inside malformed syntax. -/
def Visit.inner (file : FileInfo) (visit : Visit) : List Visit :=
  if visit.kind = .error then []
  else
    visitsOf file (visit.inside file) (visit.innerNext file) visit.innerParent visit.innerParameters
      visit.tree.children

variable {file : FileInfo} {position : Position} {next : ℕ} {parent : Option ℕ}
  {parameters : ParameterUse} {trees : List SyntaxTree} {visit other : Visit}

/-- The visits of several trees are at one position and in one `when`, with numbers from the first
one on. -/
theorem of_mem_visitsOf (h : visit ∈ visitsOf file position next parent parameters trees) :
    visit.tree ∈ trees ∧ visit.position = position ∧ visit.parent = parent ∧ next ≤ visit.next := by
  fun_induction visitsOf file position next parent parameters trees with
  | case1 => cases h
  | case2 _ _ _ _ ih =>
    obtain ⟨htree, hrest⟩ := ih h
    exact ⟨List.mem_cons_of_mem _ htree, hrest⟩
  | case3 next tree rest _ ih =>
    rcases List.mem_cons.1 h with rfl | h
    · exact ⟨List.mem_cons_self, rfl, rfl, Nat.le_refl _⟩
    · obtain ⟨htree, hposition, hparent, hnext⟩ := ih h
      exact ⟨List.mem_cons_of_mem _ htree, hposition, hparent,
        Nat.le_trans (Nat.le_add_right _ _) hnext⟩

/-- What a construct hands on to the constructs inside it. -/
theorem Visit.of_mem_inner (h : other ∈ visit.inner file) :
    other.tree ∈ visit.tree.children ∧ other.position = visit.inside file ∧
      other.parent = visit.innerParent ∧ visit.innerNext file ≤ other.next := by
  unfold Visit.inner at h
  split_ifs at h
  · cases h
  · exact of_mem_visitsOf h

theorem Visit.position_of_mem_inner (h : other ∈ visit.inner file) :
    other.position = visit.inside file := (Visit.of_mem_inner h).2.1

theorem Visit.parent_of_mem_inner (h : other ∈ visit.inner file) :
    other.parent = visit.innerParent := (Visit.of_mem_inner h).2.2.1

/-- A construct inside another is smaller. -/
theorem Visit.sizeOf_of_mem_inner (h : other ∈ visit.inner file) :
    sizeOf other.tree < sizeOf visit.tree := by
  have hmem := (Visit.of_mem_inner h).1
  obtain ⟨⟨label, children⟩, position, next, parent⟩ := visit
  have hchild : sizeOf other.tree < sizeOf children := List.sizeOf_lt_of_mem hmem
  simp only [SyntaxTree.node.sizeOf_spec]
  omega

/-- A construct and all constructs that are met inside it, each before those inside it. -/
def Visit.walk (file : FileInfo) (visit : Visit) : List Visit :=
  visit :: (visit.inner file).attach.flatMap fun ⟨other, _⟩ => other.walk file
termination_by sizeOf visit.tree
decreasing_by exact Visit.sizeOf_of_mem_inner ‹_›

theorem Visit.walk_eq (file : FileInfo) (visit : Visit) :
    visit.walk file = visit :: (visit.inner file).flatMap (Visit.walk file) := by
  rw [Visit.walk]
  simp

/-- What holds of a construct if it holds of those inside it holds of all. -/
@[elab_as_elim]
theorem Visit.inner_induction (file : FileInfo) {motive : Visit → Prop}
    (step : ∀ visit, (∀ other ∈ Visit.inner file visit, motive other) → motive visit)
    (visit : Visit) : motive visit :=
  step visit fun other _ => Visit.inner_induction file step other
termination_by sizeOf visit.tree
decreasing_by exact Visit.sizeOf_of_mem_inner ‹_›

/-! ### The findings of a visit -/

theorem Visit.found_error (h : visit.kind = .error) : visit.found file = visit.heading file := by
  obtain ⟨⟨label, children⟩, position, next, parent⟩ := visit
  have hkind : label.kind = .error := h
  simp only [Visit.found, Visit.heading, Visit.kind, SyntaxTree.label, findings, hkind]

/-- The constructs inside a construct give their findings between its heading and its closing. -/
theorem Visit.found_eq (h : visit.kind ≠ .error) :
    visit.found file = visit.heading file ++
      findingsAll file (visit.inside file) (visit.innerNext file) visit.innerParent
        visit.innerParameters visit.tree.children ++ visit.closing file := by
  obtain ⟨⟨label, children⟩, position, next, parent⟩ := visit
  -- kept as an equation: the findings of the construct itself depend on its kind, too
  obtain ⟨kind, hkind⟩ : ∃ kind, label.kind = kind := ⟨_, rfl⟩
  unfold Visit.found Visit.heading Visit.inside Visit.innerNext Visit.innerParent
    Visit.innerParameters Visit.closing Visit.heading Visit.kind
  simp only [SyntaxTree.label] at h ⊢
  cases kind with
  | error => exact absurd hkind h
  | classDecl =>
    simp only [hkind, findings]
    rfl
  | function =>
    simp only [hkind, findings]
    simp only [reduceCtorEq, if_false, List.append_nil]
    rfl
  | when =>
    have hown : nextAfter next (ownFindings file position next parent label) = next + 1 := by
      simp only [ownFindings, hkind]
      rfl
    simp only [hkind, findings, hown, reduceCtorEq, if_false, if_true, List.append_nil]
    rfl
  | _ =>
    simp only [hkind, findings, reduceCtorEq, if_false, List.append_nil]
    rfl

section Pick

variable {α : Type} {pick : Finding → Option α}

theorem filterMap_findingsAll (hvariable : ∀ decl, pick (.variableDecl decl) = none) :
    (findingsAll file position next parent parameters trees).filterMap pick =
      (visitsOf file position next parent parameters trees).flatMap fun visit =>
        (visit.found file).filterMap pick := by
  induction trees generalizing next with
  | nil => simp [findingsAll, visitsOf]
  | cons tree rest ih =>
    rw [findingsAll, visitsOf, List.filterMap_append, ih]
    by_cases hkind : tree.label.kind = .parameter
    · cases parameters with
      | visit => simp [hkind, Visit.found]
      | skip => simp [hkind, nextAfter]
      | declare => simp [hkind, hvariable, nextAfter, isBranch]
    · simp [hkind, Visit.found]

/-- What is picked from the findings of a construct, unless it is about variables or the record of a
class, stands in the order of the visits. -/
theorem Visit.filterMap_found (hvariable : ∀ decl, pick (.variableDecl decl) = none)
    (hclass : ∀ decl, pick (.classDecl decl) = none) (visit : Visit) :
    (visit.found file).filterMap pick =
      (visit.walk file).flatMap fun other => (other.heading file).filterMap pick := by
  induction visit using Visit.inner_induction file with
  | step visit ih =>
    rw [Visit.walk_eq, List.flatMap_cons]
    by_cases herror : visit.kind = .error
    · rw [Visit.found_error herror, Visit.inner, if_pos herror]
      simp
    · have hclosing : (visit.closing file).filterMap pick = [] := by
        unfold Visit.closing
        split_ifs
        · simp [hclass]
        · rfl
      rw [Visit.found_eq herror, List.filterMap_append, List.filterMap_append, hclosing,
        List.append_nil, filterMap_findingsAll hvariable]
      rw [Visit.inner, if_neg herror] at ih ⊢
      rw [List.flatMap_assoc, List.flatMap_congr ih]

end Pick

/-! ### The visits of a file -/

/-- The constructs of a file that stand inside no other. -/
def roots (file : ParsedFile) : List Visit := visitsOf (infoOf file) {} 0 none .visit file.nodes

/-- All constructs of a file that are met, each before those inside it. -/
def visits (file : ParsedFile) : List Visit := (roots file).flatMap (Visit.walk (infoOf file))

theorem Visit.mem_walk_self (visit : Visit) : visit ∈ visit.walk file := by
  rw [Visit.walk_eq]
  exact List.mem_cons_self

theorem Visit.mem_walk_of_mem_inner {inner : Visit} (h : other ∈ visit.walk file)
    (hinner : inner ∈ other.inner file) : inner ∈ visit.walk file := by
  induction visit using Visit.inner_induction file with
  | step visit ih =>
    rw [Visit.walk_eq] at h ⊢
    rcases List.mem_cons.1 h with rfl | h
    · exact List.mem_cons_of_mem _ (List.mem_flatMap.2 ⟨inner, hinner, inner.mem_walk_self⟩)
    · obtain ⟨between, hbetween, h⟩ := List.mem_flatMap.1 h
      exact List.mem_cons_of_mem _ (List.mem_flatMap.2 ⟨between, hbetween, ih between hbetween h⟩)

theorem mem_visits_of_mem_roots {parsed : ParsedFile} (h : visit ∈ roots parsed) :
    visit ∈ visits parsed := List.mem_flatMap.2 ⟨visit, h, visit.mem_walk_self⟩

theorem mem_visits_of_mem_inner {parsed : ParsedFile} (h : visit ∈ visits parsed)
    (hinner : other ∈ visit.inner (infoOf parsed)) : other ∈ visits parsed := by
  obtain ⟨root, hroot, h⟩ := List.mem_flatMap.1 h
  exact List.mem_flatMap.2 ⟨root, hroot, Visit.mem_walk_of_mem_inner h hinner⟩

/-- What is picked from the findings of a file, unless it is about variables or the records of
classes, stands in the order of the visits. -/
theorem filterMap_findings_heading {α : Type} {pick : Finding → Option α} {parsed : ParsedFile}
    (hvariable : ∀ decl, pick (.variableDecl decl) = none)
    (hclass : ∀ decl, pick (.classDecl decl) = none) :
    (findingsAll (infoOf parsed) {} 0 none .visit parsed.nodes).filterMap pick =
      (visits parsed).flatMap fun visit => (visit.heading (infoOf parsed)).filterMap pick := by
  rw [filterMap_findingsAll hvariable, visits, List.flatMap_assoc]
  exact List.flatMap_congr fun visit _ => visit.filterMap_found hvariable hclass

/-- What is picked from the findings of a file, at most once for each construct, stands in the order
of the visits. -/
theorem filterMap_findings {α : Type} {pick : Finding → Option α} {record : Visit → Option α}
    {parsed : ParsedFile} (hvariable : ∀ decl, pick (.variableDecl decl) = none)
    (hclass : ∀ decl, pick (.classDecl decl) = none)
    (hrecord : ∀ visit, (visit.heading (infoOf parsed)).filterMap pick = (record visit).toList) :
    (findingsAll (infoOf parsed) {} 0 none .visit parsed.nodes).filterMap pick =
      (visits parsed).filterMap record := by
  rw [filterMap_findings_heading hvariable hclass, List.filterMap_eq_flatMap_toList]
  exact List.flatMap_congr fun visit _ => hrecord visit

/-- The record of a construct that is a branch. -/
def Visit.branch? (file : FileInfo) (visit : Visit) : Option Branch :=
  match visit.kind with
  | .ifBranch => some (ifOf file visit.position visit.next visit.tree.label)
  | .when => some (whenOf file visit.position visit.next visit.tree.label)
  | .whenEntry =>
    visit.parent.map fun parent => entryOf file visit.position visit.next parent visit.tree.label
  | _ => none

/-- The record of a construct that is a function. -/
def Visit.function? (file : FileInfo) (visit : Visit) : Option FunctionDecl :=
  if visit.kind = .function then some (visit.function file) else none

/-- The branch that a finding records. -/
def findingBranch? : Finding → Option Branch
  | .branch branch _ => some branch
  | _ => none

theorem filterMap_heading_branch (file : FileInfo) (visit : Visit) :
    (visit.heading file).filterMap findingBranch? = (visit.branch? file).toList := by
  obtain ⟨kind, hkind⟩ : ∃ kind, visit.kind = kind := ⟨_, rfl⟩
  have hlabel : visit.tree.label.kind = kind := hkind
  unfold Visit.heading Visit.branch?
  cases kind with
  | whenEntry => cases visit.parent <;> simp [hkind, ownFindings, hlabel, findingBranch?]
  | _ => simp [hkind, ownFindings, hlabel, findingBranch?]

/-- The branches of a file are those of the constructs that are met. -/
theorem branches_build (parsed : ParsedFile) :
    (Model.build parsed).model.branches =
      (visits parsed).filterMap (Visit.branch? (infoOf parsed)) :=
  filterMap_findings (fun _ => rfl) (fun _ => rfl) (filterMap_heading_branch (infoOf parsed))

/-- The functions of a file are those that are met. -/
theorem functions_build (parsed : ParsedFile) :
    (Model.build parsed).model.functions =
      (visits parsed).filterMap (Visit.function? (infoOf parsed)) := by
  refine filterMap_findings (fun _ => rfl) (fun _ => rfl) fun visit => ?_
  obtain ⟨kind, hkind⟩ : ∃ kind, visit.kind = kind := ⟨_, rfl⟩
  have hlabel : visit.tree.label.kind = kind := hkind
  unfold Visit.heading Visit.function?
  cases kind with
  | whenEntry => cases visit.parent <;> simp [hkind, ownFindings, hlabel]
  | _ => simp [hkind, ownFindings, hlabel]

/-! ### What is found -/

/-- The variables that parameters are where they are declared, each with the construct that it is
made from. -/
def declared (file : FileInfo) (position : Position) (parameters : ParameterUse)
    (trees : List SyntaxTree) :
    List (SyntaxLabel × Finding) :=
  if parameters = .declare then
    ((trees.map (·.label)).filter (·.kind = .parameter)).map fun label =>
      (label, .variableDecl (variableOf (parameterOf label)
        (file.lineOf label.start) file.path position.scope))
  else []

/-- What a construct gives, apart from the constructs that are met inside it, each with the
construct that it is made from. -/
def Visit.given (file : FileInfo) (visit : Visit) : List (SyntaxLabel × Finding) :=
  (visit.heading file ++ visit.closing file).map (visit.tree.label, ·) ++
    declared file (visit.inside file) visit.innerParameters visit.tree.children

theorem declared_cons_of_ne {tree : SyntaxTree}
    (h : ¬(tree.label.kind = .parameter ∧ parameters = .declare)) :
    declared file position parameters (tree :: trees) =
      declared file position parameters trees := by
  unfold declared
  split_ifs with hparameters
  · have hkind : tree.label.kind ≠ .parameter := fun hkind => h ⟨hkind, hparameters⟩
    rw [List.map_cons, List.filter_cons_of_neg (by simpa using hkind)]
  · rfl

/-- Several trees give the variables that are declared and what is found in the trees that are
met. -/
theorem findingsAll_perm (file : FileInfo) (position : Position) (next : ℕ) (parent : Option ℕ)
    (parameters : ParameterUse) (trees : List SyntaxTree) :
    (findingsAll file position next parent parameters trees).Perm
      ((declared file position parameters trees).map Prod.snd ++
        (visitsOf file position next parent parameters trees).flatMap (Visit.found file)) := by
  induction trees generalizing next with
  | nil => simp [findingsAll, visitsOf, declared]
  | cons tree rest ih =>
    rw [findingsAll, visitsOf]
    by_cases hmet : tree.label.kind = .parameter ∧ parameters ≠ .visit
    · rw [if_pos hmet]
      obtain ⟨hkind, hparameters⟩ := hmet
      cases parameters with
      | visit => exact absurd rfl hparameters
      | skip =>
        rw [declared_cons_of_ne (by simp)]
        simpa [hkind, nextAfter] using ih next
      | declare => simpa [hkind, declared, nextAfter, isBranch] using ih next
    · have hskip : ¬(tree.label.kind = .parameter ∧ parameters = .skip) :=
        fun h => hmet ⟨h.1, by simp [h.2]⟩
      have hdeclare : ¬(tree.label.kind = .parameter ∧ parameters = .declare) := fun h =>
        hmet ⟨h.1, by simp [h.2]⟩
      rw [if_neg hmet, if_neg hskip, if_neg hdeclare, declared_cons_of_ne hdeclare,
        List.flatMap_cons]
      exact ((ih _).append_left _).trans (List.perm_append_comm_assoc _ _ _)

/-- What is found in a construct is what it and the constructs met inside it give, in some order. -/
theorem Visit.found_perm (file : FileInfo) (visit : Visit) :
    (visit.found file).Perm ((visit.walk file).flatMap fun other =>
      (other.given file).map Prod.snd) := by
  induction visit using Visit.inner_induction file with
  | step visit ih =>
    have hown : (visit.given file).map Prod.snd = visit.heading file ++ visit.closing file ++
        (declared file (visit.inside file) visit.innerParameters visit.tree.children).map
          Prod.snd := by
      simp [Visit.given, Function.comp_def]
    rw [Visit.walk_eq, List.flatMap_cons, hown]
    by_cases herror : visit.kind = .error
    · have hclosing : visit.closing file = [] := by simp [Visit.closing, herror]
      have hdeclared : declared file (visit.inside file) visit.innerParameters visit.tree.children =
          [] := by
        simp [declared, Visit.innerParameters, herror]
      rw [Visit.found_error herror, Visit.inner, if_pos herror, hclosing, hdeclared]
      simp
    · rw [Visit.found_eq herror]
      rw [Visit.inner, if_neg herror] at ih ⊢
      have hinner := (findingsAll_perm file (visit.inside file)
        (visit.innerNext file) visit.innerParent
        visit.innerParameters visit.tree.children).trans
          ((List.Perm.flatMap_left _ ih).append_left _)
      rw [← List.flatMap_assoc] at hinner
      -- what a class gives behind the constructs inside it is put before them
      rw [List.append_assoc, List.append_assoc, List.append_assoc]
      exact (List.perm_append_comm.trans (hinner.append_left _)).append_left _

/-- What is found in a file is what the constructs that are met give, in some order. -/
theorem findings_perm (parsed : ParsedFile) :
    (findingsAll (infoOf parsed) {} 0 none .visit parsed.nodes).Perm
      ((visits parsed).flatMap fun visit => (visit.given (infoOf parsed)).map Prod.snd) := by
  have hdeclared : declared (infoOf parsed) {} .visit parsed.nodes = [] := rfl
  have hroots := findingsAll_perm (infoOf parsed) {} 0 none .visit parsed.nodes
  rw [hdeclared, List.map_nil, List.nil_append] at hroots
  rw [visits, List.flatMap_assoc]
  exact hroots.trans (List.Perm.flatMap_left _ fun visit _ => visit.found_perm (infoOf parsed))

end BranchCover.Build
