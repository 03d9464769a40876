import BranchCover.Proofs.Syntax.Malformed
import Mathlib.Data.List.Chain
import Mathlib.Data.List.Forall2

/-!
# The records of a file

The walk through a file comes to all its constructs but those in malformed syntax and the parameters
of classes and functions. In the order in which they are written, each function, loop, call, named
reference and branch that it comes to is one record, and each malformed region and each `when` entry
outside a `when` is one warning.

* `PlacedTree`: a construct with the constructs around it.
* `PlacedTree.IsMet`, `metTrees`: the constructs that the walk comes to.
* `forall₂_visits`: the visits of a file are these constructs, with their positions.
* `build_records`: the records and warnings of a file, construct by construct.
-/

namespace BranchCover

/-- A construct with the constructs around it, the innermost first. -/
structure PlacedTree where
  outer : List SyntaxTree
  tree : SyntaxTree

namespace SyntaxTree

mutual

/-- A construct and all constructs inside it, each before those inside it, with the constructs
around it. -/
def placed (outer : List SyntaxTree) : SyntaxTree → List PlacedTree
  | .node label children => { outer, tree := .node label children } ::
      placedAll (.node label children :: outer) children

/-- The constructs of several trees, one tree after another. -/
def placedAll (outer : List SyntaxTree) : List SyntaxTree → List PlacedTree
  | [] => []
  | tree :: rest => placed outer tree ++ placedAll outer rest

end

/-- A construct is open to one directly inside it: it is not malformed, and the one inside is no
parameter of a class or a function. -/
def OpenTo (inner around : SyntaxTree) : Prop :=
  around.label.kind ≠ .error ∧
    ¬(inner.label.kind = .parameter ∧
      (around.label.kind = .classDecl ∨ around.label.kind = .function))

instance : DecidableRel OpenTo := fun _ _ => inferInstanceAs (Decidable (_ ∧ _))

end SyntaxTree

namespace PlacedTree

/-- What kind of construct it is. -/
def kind (node : PlacedTree) : NodeKind := node.tree.label.kind

/-- The constructs around a construct are open to it, one after another. -/
def IsMet (node : PlacedTree) : Prop := List.IsChain SyntaxTree.OpenTo (node.tree :: node.outer)

instance : DecidablePred IsMet := fun _ => inferInstanceAs (Decidable (List.IsChain _ _))

/-- A construct stands directly in a `when`. -/
def StandsInWhen (node : PlacedTree) : Prop :=
  ∃ around ∈ node.outer.head?, around.label.kind = .when

instance : DecidablePred StandsInWhen := fun node =>
  inferInstanceAs (Decidable (∃ around ∈ node.outer.head?, _))

end PlacedTree

/-- The constructs of a file that the walk comes to, each before those inside it. -/
def metTrees (file : ParsedFile) : List PlacedTree :=
  (SyntaxTree.placedAll [] file.nodes).filter (·.IsMet)

namespace Build

/-- The position inside some constructs, the innermost first: classes and functions among them
count. -/
def positionIn (file : FileInfo) : List SyntaxTree → Position
  | [] => {}
  | tree :: outer =>
    let position := positionIn file outer
    match tree.label.kind with
    | .classDecl => inClass file position tree.label
    | .function => inFunction position
        (functionOf file position tree.label (tree.children.map (·.label)))
    | _ => position

end Build

namespace SyntaxTree

variable {node : PlacedTree}

mutual

/-- What stands inside a construct has it, and what is around it, around itself. -/
theorem suffix_of_mem_placed {outer : List SyntaxTree} :
    (tree : SyntaxTree) → node ∈ placed outer tree → tree :: outer <:+ node.tree :: node.outer
  | .node label children, h => by
    rcases List.mem_cons.1 h with rfl | h
    · exact List.suffix_rfl
    · obtain ⟨child, -, hsuffix⟩ := exists_suffix_of_mem_placedAll children h
      exact (List.suffix_cons _ _).trans hsuffix

theorem exists_suffix_of_mem_placedAll {outer : List SyntaxTree} :
    (trees : List SyntaxTree) → node ∈ placedAll outer trees →
      ∃ tree ∈ trees, tree :: outer <:+ node.tree :: node.outer
  | [], h => by cases h
  | tree :: rest, h => by
    rcases List.mem_append.1 h with h | h
    · exact ⟨tree, List.mem_cons_self, suffix_of_mem_placed tree h⟩
    · obtain ⟨other, hother, hsuffix⟩ := exists_suffix_of_mem_placedAll rest h
      exact ⟨other, List.mem_cons_of_mem _ hother, hsuffix⟩

end

variable {tree : SyntaxTree} {outer trees : List SyntaxTree}

/-- The walk comes to nothing inside a construct that it does not come to. -/
theorem filter_isMet_placed (h : ¬List.IsChain OpenTo (tree :: outer)) :
    (placed outer tree).filter (·.IsMet) = [] := by
  refine List.filter_eq_nil_iff.2 fun node hnode hmet => h ?_
  exact List.IsChain.suffix (of_decide_eq_true hmet) (suffix_of_mem_placed tree hnode)

theorem filter_isMet_placedAll (h : ∀ tree ∈ trees, ¬List.IsChain OpenTo (tree :: outer)) :
    (placedAll outer trees).filter (·.IsMet) = [] := by
  refine List.filter_eq_nil_iff.2 fun node hnode hmet => ?_
  obtain ⟨tree, htree, hsuffix⟩ := exists_suffix_of_mem_placedAll trees hnode
  exact h tree htree (List.IsChain.suffix (of_decide_eq_true hmet) hsuffix)

end SyntaxTree

namespace Build

open SyntaxTree

variable {file : FileInfo} {position : Position} {next : ℕ} {parent : Option ℕ}
  {parameters : ParameterUse}
  {trees outer : List SyntaxTree} {visit : Visit} {node : PlacedTree} {parsed : ParsedFile}

/-! ### The visits of a file -/

/-- A visit is where a construct is met: at the position inside the constructs around it, and with
the number of a `when` exactly if it stands directly in one. -/
structure IsVisitOf (file : FileInfo) (node : PlacedTree) (visit : Visit) : Prop where
  tree : visit.tree = node.tree
  position : visit.position = positionIn file node.outer
  parent : visit.parent.isSome = true ↔ node.StandsInWhen

theorem forall₂_visitsOf
    (hclosed : ∀ tree ∈ trees, tree.label.kind = .parameter ∧ parameters ≠ .visit →
      ¬List.IsChain OpenTo (tree :: outer))
    (hinner : ∀ visit ∈ visitsOf file position next parent parameters trees,
      List.Forall₂ (IsVisitOf file) ((placed outer visit.tree).filter (·.IsMet))
        (visit.walk file)) :
    List.Forall₂ (IsVisitOf file) ((placedAll outer trees).filter (·.IsMet))
      ((visitsOf file position next parent parameters trees).flatMap (Visit.walk file)) := by
  induction trees generalizing next with
  | nil => exact .nil
  | cons tree rest ih =>
    obtain ⟨htree, hrest⟩ := List.forall_mem_cons.1 hclosed
    rw [placedAll, List.filter_append]
    rw [visitsOf] at hinner ⊢
    split_ifs at hinner ⊢ with hskip
    · rw [filter_isMet_placed (htree hskip), List.nil_append]
      exact ih hrest hinner
    · obtain ⟨hfirst, hlater⟩ := List.forall_mem_cons.1 hinner
      rw [List.flatMap_cons]
      exact List.rel_append hfirst (ih hrest hlater)

theorem not_skipped_of_mem_visitsOf
    (h : visit ∈ visitsOf file position next parent parameters trees) :
    ¬(visit.kind = .parameter ∧ parameters ≠ .visit) := by
  fun_induction visitsOf file position next parent parameters trees with
  | case1 => cases h
  | case2 _ _ _ _ ih => exact ih h
  | case3 _ _ _ hmet ih =>
    rcases List.mem_cons.1 h with rfl | h
    · exact hmet
    · exact ih h

theorem Visit.innerParameters_ne_visit_iff :
    visit.innerParameters ≠ .visit ↔ visit.kind = .classDecl ∨ visit.kind = .function := by
  unfold Visit.innerParameters
  cases visit.kind <;> simp

/-- A construct is open to what is met directly inside it. -/
theorem openTo_of_mem_inner {inner : Visit} (h : inner ∈ visit.inner file) :
    OpenTo inner.tree visit.tree := by
  unfold Visit.inner at h
  split_ifs at h with herror
  · cases h
  · refine ⟨herror, fun hskip => ?_⟩
    exact not_skipped_of_mem_visitsOf h ⟨hskip.1, Visit.innerParameters_ne_visit_iff.2 hskip.2⟩

theorem Visit.inside_eq (h : IsVisitOf file node visit) :
    visit.inside file = positionIn file (node.tree :: node.outer) := by
  rw [← h.tree, positionIn, ← h.position]
  rfl

/-- What is met directly inside a construct is where it is met. -/
theorem isVisitOf_inner {inner : Visit} (h : IsVisitOf file node visit)
    (hinner : inner ∈ visit.inner file) :
    IsVisitOf file { outer := node.tree :: node.outer, tree := inner.tree } inner where
  tree := rfl
  position := (Visit.position_of_mem_inner hinner).trans (Visit.inside_eq h)
  parent := by
    have hkind : visit.kind = node.kind := congrArg (·.label.kind) h.tree
    have hstands : PlacedTree.StandsInWhen
      { outer := node.tree :: node.outer, tree := inner.tree } ↔
        node.kind = .when := by simp [PlacedTree.StandsInWhen, PlacedTree.kind]
    rw [Visit.parent_of_mem_inner hinner, Visit.innerParent, hkind, hstands]
    split_ifs with hwhen
    · simp [hwhen]
    · simp [hwhen]

/-- The walk through a construct meets what stands inside it. -/
theorem forall₂_walk (hmet : node.IsMet) (h : IsVisitOf file node visit) :
    List.Forall₂ (IsVisitOf file) ((placed node.outer node.tree).filter (·.IsMet))
      (visit.walk file) := by
  induction visit using Visit.inner_induction file generalizing node with
  | step visit ih =>
    obtain ⟨outer, ⟨label, children⟩⟩ := node
    have hkind : visit.kind = label.kind := congrArg (·.label.kind) h.tree
    rw [Visit.walk_eq, placed, List.filter_cons_of_pos (by simpa using hmet)]
    refine .cons h ?_
    by_cases herror : label.kind = .error
    · have hclosed : ∀ tree ∈ children,
          ¬List.IsChain OpenTo (tree :: .node label children :: outer) :=
        fun tree _ hchain => (List.isChain_cons_cons.1 hchain).1.1 herror
      rw [Visit.inner, if_pos (hkind.trans herror), filter_isMet_placedAll hclosed]
      exact .nil
    · have hinner : ∀ inner ∈ visit.inner file,
          List.Forall₂ (IsVisitOf file) ((placed (.node label children :: outer) inner.tree).filter
            (·.IsMet))
            (inner.walk file) := by
        intro inner hmem
        have hopen := openTo_of_mem_inner hmem
        rw [h.tree] at hopen
        have hmetInner : PlacedTree.IsMet ⟨.node label children :: outer, inner.tree⟩ :=
          List.isChain_cons_cons.2 ⟨hopen, hmet⟩
        exact ih inner hmem hmetInner (isVisitOf_inner h hmem)
      have hchildren : visit.tree.children = children := congrArg (·.children) h.tree
      rw [Visit.inner, if_neg (hkind ▸ herror), hchildren] at hinner ⊢
      refine forall₂_visitsOf (fun tree _ hskip hchain => ?_) hinner
      rw [Visit.innerParameters_ne_visit_iff, hkind] at hskip
      exact (List.isChain_cons_cons.1 hchain).1.2 hskip

/-- **The visits of a file are the constructs that the walk comes to**, in their order. -/
theorem forall₂_visits (parsed : ParsedFile) :
    List.Forall₂ (IsVisitOf (infoOf parsed)) (metTrees parsed) (visits parsed) := by
  refine forall₂_visitsOf (fun _ _ hskip => absurd rfl hskip.2) fun visit hvisit => ?_
  obtain ⟨-, hposition, hparent, -⟩ := of_mem_visitsOf hvisit
  have hmet : PlacedTree.IsMet { outer := [], tree := visit.tree } := List.isChain_singleton _
  refine forall₂_walk hmet ⟨rfl, hposition, ?_⟩
  simp [hparent, PlacedTree.StandsInWhen]

/-! ### The record of a construct -/

end Build

namespace PlacedTree

open Build

/-- The position of a construct. -/
def position (file : FileInfo) (node : PlacedTree) : Position := positionIn file node.outer

/-- The record of a function. -/
def function (file : FileInfo) (node : PlacedTree) : FunctionDecl :=
  functionOf file (node.position file) node.tree.label (node.tree.children.map (·.label))

/-- A loop of one of the three kinds. -/
def IsLoop (node : PlacedTree) : Prop :=
  node.kind = .forLoop ∨ node.kind = .whileLoop ∨ node.kind = .doWhileLoop

instance : DecidablePred IsLoop := fun _ => inferInstanceAs (Decidable (_ ∨ _ ∨ _))

/-- The record of a loop. -/
def loop (file : FileInfo) (node : PlacedTree) : Loop :=
  let kind :=
    match node.kind with
    | .forLoop => .forEach
    | .whileLoop => .whileDo
    | _ => .doWhile
  (loopOf file (node.position file) kind node.tree.label).1

/-- The record of a call. -/
def call (file : FileInfo) (node : PlacedTree) : FunctionCall where
  name := node.tree.label.name.getD ""
  file := file.path
  line := file.lineOf node.tree.label.start
  scope := (node.position file).scope
  caller := (node.position file).function.map (·.name)
  callerQualifiedName := (node.position file).function.map (·.qualifiedName)
  arguments := node.tree.label.arguments

/-- A reference that has a name. -/
def IsNamedReference (node : PlacedTree) : Prop :=
  node.kind = .reference ∧ node.tree.label.name.getD "" ≠ ""

instance : DecidablePred IsNamedReference := fun _ => inferInstanceAs (Decidable (_ ∧ _))

/-- The record of a reference. -/
def reference (file : FileInfo) (node : PlacedTree) : Reference where
  name := node.tree.label.name.getD ""
  file := file.path
  line := file.lineOf node.tree.label.start
  scope := (node.position file).scope

/-- An `if`, a `when`, or an entry that stands directly in a `when`. -/
def IsBranch (node : PlacedTree) : Prop :=
  node.kind = .ifBranch ∨ node.kind = .when ∨ node.kind = .whenEntry ∧ node.StandsInWhen

instance : DecidablePred IsBranch := fun _ => inferInstanceAs (Decidable (_ ∨ _ ∨ _))

/-- A branch is the record of a construct, apart from its number and that of the `when` around
it. -/
def IsBranchRecord (file : FileInfo) (node : PlacedTree) (branch : Branch) : Prop :=
  match node.kind with
  | .ifBranch => ∃ number, branch = ifOf file (node.position file) number node.tree.label
  | .when => ∃ number, branch = whenOf file (node.position file) number node.tree.label
  | .whenEntry => ∃ number parent,
      branch = entryOf file (node.position file) number parent node.tree.label
  | _ => False

/-- Malformed syntax, or an entry that does not stand directly in a `when`. -/
def IsWarned (node : PlacedTree) : Prop :=
  node.kind = .error ∨ node.kind = .whenEntry ∧ ¬node.StandsInWhen

instance : DecidablePred IsWarned := fun _ => inferInstanceAs (Decidable (_ ∨ _ ∧ _))

/-- The warning of malformed syntax, or else of an entry outside a `when`. -/
def warning (file : FileInfo) (node : PlacedTree) : Warning :=
  if node.kind = .error then malformedWarning file node.tree.label
  else
    { kind := .analysisInconsistency,
      message := "When entry without an enclosing when; entry dropped",
      file := some file.path, line := some (file.lineOf node.tree.label.start) }

end PlacedTree

namespace Build

variable {α : Type} {pick : Finding → Option α} {p : PlacedTree → Prop} [DecidablePred p]
  {record : PlacedTree → α → Prop}

/-- A construct gives one record if it is one of some constructs, and none otherwise. -/
def GivesRecord (file : FileInfo) (pick : Finding → Option α) (p : PlacedTree → Prop)
    (record : PlacedTree → α → Prop) :
    Prop :=
  ∀ node visit, IsVisitOf file node visit →
    (visit.heading file).filterMap pick = [] ∧ ¬p node ∨
      p node ∧ ∃ picked, (visit.heading file).filterMap pick = [picked] ∧ record node picked

theorem forall₂_flatMap_heading {nodes : List PlacedTree} {visits : List Visit}
    (h : List.Forall₂ (IsVisitOf file) nodes visits) (hgives : GivesRecord file pick p record) :
    List.Forall₂ record (nodes.filter p) (visits.flatMap fun visit =>
      (visit.heading file).filterMap pick) := by
  induction h with
  | nil => exact .nil
  | @cons node visit nodes visits h _ ih =>
    rw [List.flatMap_cons]
    obtain ⟨hnone, hp⟩ | ⟨hp, picked, hone, hrecord⟩ := hgives node visit h
    · rw [hnone, List.filter_cons_of_neg (by simpa using hp)]
      exact ih
    · rw [hone, List.filter_cons_of_pos (by simpa using hp)]
      exact .cons hrecord ih

/-- If each construct gives its record, the records of a file are those of the constructs that the
walk comes to. -/
theorem forall₂_records (hvariable : ∀ decl, pick (.variableDecl decl) = none)
    (hclass : ∀ decl, pick (.classDecl decl) = none)
    (hgives : GivesRecord (infoOf parsed) pick p record) :
    List.Forall₂ record ((metTrees parsed).filter p)
      ((findingsAll (infoOf parsed) {} 0 none .visit parsed.nodes).filterMap pick) := by
  rw [filterMap_findings_heading hvariable hclass]
  exact forall₂_flatMap_heading (forall₂_visits parsed) hgives

theorem forall₂_functions (parsed : ParsedFile) :
    List.Forall₂ (fun node decl => decl = node.function (infoOf parsed))
      ((metTrees parsed).filter (·.kind = .function))
      (Model.build parsed).model.functions := by
  refine forall₂_records (fun _ => rfl) (fun _ => rfl) ?_
  rintro node ⟨_, _, next, parent⟩ ⟨rfl, rfl, -⟩
  obtain ⟨kind, hkind⟩ : ∃ kind, node.tree.label.kind = kind := ⟨_, rfl⟩
  cases kind with
  | whenEntry =>
    cases parent <;> simp [Visit.heading, Visit.kind, ownFindings, PlacedTree.kind, hkind]
  | function =>
    simp [Visit.heading, Visit.kind, PlacedTree.kind, hkind, PlacedTree.function, Visit.function,
      PlacedTree.position]
  | _ => simp [Visit.heading, Visit.kind, ownFindings, PlacedTree.kind, hkind]

theorem forall₂_loops (parsed : ParsedFile) :
    List.Forall₂ (fun node loop => loop = node.loop (infoOf parsed))
      ((metTrees parsed).filter (·.IsLoop))
      (Model.build parsed).model.loops := by
  refine forall₂_records (fun _ => rfl) (fun _ => rfl) ?_
  rintro node ⟨_, _, next, parent⟩ ⟨rfl, rfl, -⟩
  obtain ⟨kind, hkind⟩ : ∃ kind, node.tree.label.kind = kind := ⟨_, rfl⟩
  cases kind with
  | whenEntry =>
    cases parent <;> simp [Visit.heading, Visit.kind, ownFindings, PlacedTree.kind,
      PlacedTree.IsLoop, hkind]
  | forLoop | whileLoop | doWhileLoop =>
    simp [Visit.heading, Visit.kind, ownFindings, PlacedTree.kind, hkind, PlacedTree.IsLoop,
      PlacedTree.loop, PlacedTree.position]
  | _ => simp [Visit.heading, Visit.kind, ownFindings, PlacedTree.kind, PlacedTree.IsLoop, hkind]

theorem forall₂_calls (parsed : ParsedFile) :
    List.Forall₂ (fun node call => call = node.call (infoOf parsed))
      ((metTrees parsed).filter (·.kind = .call))
      (Model.build parsed).model.calls := by
  refine forall₂_records (fun _ => rfl) (fun _ => rfl) ?_
  rintro node ⟨_, _, next, parent⟩ ⟨rfl, rfl, -⟩
  obtain ⟨kind, hkind⟩ : ∃ kind, node.tree.label.kind = kind := ⟨_, rfl⟩
  cases kind with
  | whenEntry =>
    cases parent <;> simp [Visit.heading, Visit.kind, ownFindings, PlacedTree.kind, hkind]
  | call =>
    simp [Visit.heading, Visit.kind, ownFindings, PlacedTree.kind, hkind, PlacedTree.call,
      PlacedTree.position]
  | _ => simp [Visit.heading, Visit.kind, ownFindings, PlacedTree.kind, hkind]

theorem forall₂_references (parsed : ParsedFile) :
    List.Forall₂ (fun node reference => reference = node.reference (infoOf parsed))
      ((metTrees parsed).filter (·.IsNamedReference)) (Model.build parsed).model.references := by
  refine forall₂_records (fun _ => rfl) (fun _ => rfl) ?_
  rintro node ⟨_, _, next, parent⟩ ⟨rfl, rfl, -⟩
  obtain ⟨kind, hkind⟩ : ∃ kind, node.tree.label.kind = kind := ⟨_, rfl⟩
  cases kind with
  | whenEntry =>
    cases parent <;> simp [Visit.heading, Visit.kind, ownFindings, PlacedTree.kind,
      PlacedTree.IsNamedReference, hkind]
  | reference =>
    by_cases hname : node.tree.label.name.getD "" = ""
    · simp [Visit.heading, Visit.kind, ownFindings, PlacedTree.IsNamedReference, hkind, hname]
    · simp [Visit.heading, Visit.kind, ownFindings, PlacedTree.kind, PlacedTree.IsNamedReference,
        hkind, hname, PlacedTree.reference, PlacedTree.position]
  | _ =>
    simp [Visit.heading, Visit.kind, ownFindings, PlacedTree.kind,
      PlacedTree.IsNamedReference, hkind]

theorem forall₂_branches (parsed : ParsedFile) :
    List.Forall₂ (·.IsBranchRecord (infoOf parsed)) ((metTrees parsed).filter (·.IsBranch))
      (Model.build parsed).model.branches := by
  refine forall₂_records (fun _ => rfl) (fun _ => rfl) ?_
  rintro node ⟨_, _, next, parent⟩ ⟨rfl, rfl, hparent⟩
  obtain ⟨kind, hkind⟩ : ∃ kind, node.tree.label.kind = kind := ⟨_, rfl⟩
  cases kind with
  | ifBranch =>
    refine Or.inr ⟨Or.inl hkind, _, by simp [Visit.heading, Visit.kind, ownFindings, hkind]; rfl,
      ?_⟩
    simp only [PlacedTree.IsBranchRecord, PlacedTree.kind, hkind]
    exact ⟨next, rfl⟩
  | when =>
    refine Or.inr ⟨Or.inr (Or.inl hkind), _,
      by simp [Visit.heading, Visit.kind, ownFindings, hkind]; rfl, ?_⟩
    simp only [PlacedTree.IsBranchRecord, PlacedTree.kind, hkind]
    exact ⟨next, rfl⟩
  | whenEntry =>
    cases parent with
    | none =>
      have hstray : ¬node.StandsInWhen := by simpa using hparent
      simp [Visit.heading, Visit.kind, ownFindings, PlacedTree.kind, PlacedTree.IsBranch,
        hkind, hstray]
    | some number =>
      have hstands : node.StandsInWhen := by simpa using hparent
      refine Or.inr ⟨Or.inr (Or.inr ⟨hkind, hstands⟩), _,
        by simp [Visit.heading, Visit.kind, ownFindings, hkind]; rfl, ?_⟩
      simp only [PlacedTree.IsBranchRecord, PlacedTree.kind, hkind]
      exact ⟨next, number, rfl⟩
  | _ => simp [Visit.heading, Visit.kind, ownFindings, PlacedTree.kind, PlacedTree.IsBranch, hkind]

theorem forall₂_warnings (parsed : ParsedFile) :
    List.Forall₂ (fun node warning =>
      warning = node.warning (infoOf parsed)) ((metTrees parsed).filter (·.IsWarned))
      (Model.build parsed).warnings := by
  refine forall₂_records (fun _ => rfl) (fun _ => rfl) ?_
  rintro node ⟨_, _, next, parent⟩ ⟨rfl, rfl, hparent⟩
  obtain ⟨kind, hkind⟩ : ∃ kind, node.tree.label.kind = kind := ⟨_, rfl⟩
  cases kind with
  | whenEntry =>
    cases parent with
    | none =>
      have hstray : ¬node.StandsInWhen := by simpa using hparent
      simp [Visit.heading, Visit.kind, ownFindings, PlacedTree.kind, PlacedTree.IsWarned,
        PlacedTree.warning, hkind, hstray]
    | some number =>
      have hstands : node.StandsInWhen := by simpa using hparent
      simp [Visit.heading, Visit.kind, ownFindings, PlacedTree.kind, PlacedTree.IsWarned, hkind,
        hstands]
  | error =>
    simp [Visit.heading, Visit.kind, ownFindings, PlacedTree.kind, hkind, PlacedTree.IsWarned,
      PlacedTree.warning, malformedWarning]
  | _ => simp [Visit.heading, Visit.kind, ownFindings, PlacedTree.kind, PlacedTree.IsWarned, hkind]

/-- **The records of a file, construct by construct.** The walk comes to all constructs but those
inside malformed syntax and the parameters of classes and functions. In their order, each function,
loop, call and named reference among them is one record; so is each `if`, each `when` and each entry
directly in a `when`, as a branch; and each malformed region and each other entry is one warning.
There are no other such records and warnings. -/
theorem build_records (parsed : ParsedFile) :
    List.Forall₂ (fun node decl => decl = node.function (infoOf parsed))
      ((metTrees parsed).filter (·.kind = .function))
        (Model.build parsed).model.functions ∧
      List.Forall₂ (fun node loop => loop = node.loop (infoOf parsed))
        ((metTrees parsed).filter (·.IsLoop))
        (Model.build parsed).model.loops ∧
      List.Forall₂ (fun node call => call = node.call (infoOf parsed))
        ((metTrees parsed).filter (·.kind = .call))
        (Model.build parsed).model.calls ∧
      List.Forall₂ (fun node reference => reference = node.reference (infoOf parsed))
        ((metTrees parsed).filter (·.IsNamedReference)) (Model.build parsed).model.references ∧
      List.Forall₂ (·.IsBranchRecord (infoOf parsed)) ((metTrees parsed).filter (·.IsBranch))
        (Model.build parsed).model.branches ∧
      List.Forall₂ (fun node warning =>
        warning = node.warning (infoOf parsed)) ((metTrees parsed).filter (·.IsWarned))
        (Model.build parsed).warnings :=
  ⟨forall₂_functions parsed, forall₂_loops parsed, forall₂_calls parsed, forall₂_references parsed,
    forall₂_branches parsed, forall₂_warnings parsed⟩

/-- A construct of a kind with the constructs inside it. -/
def kindTree (kind : NodeKind) (children : List SyntaxTree) : SyntaxTree :=
  .node { kind, start := 0, stop := 1 } children

/-- The walk leaves out the `if` in a parameter of the function and the call in malformed syntax.
The entry inside an entry is met, but it does not stand directly in a `when`. -/
example :
    (metTrees { path := "a.kt", content := "", nodes :=
      [kindTree .function [kindTree .parameter [kindTree .ifBranch []],
        kindTree .when [kindTree .whenEntry [kindTree .whenEntry [kindTree .call []]]]],
       kindTree .error [kindTree .call []]] }).map (fun node =>
         (node.kind, decide node.StandsInWhen)) =
      [(.function, false), (.when, false), (.whenEntry, true), (.whenEntry, false), (.call, false),
        (.error, false)] := by
  decide

end Build

end BranchCover
