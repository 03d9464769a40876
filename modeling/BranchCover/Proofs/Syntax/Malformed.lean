import BranchCover.Proofs.Model.Numbering
import BranchCover.Proofs.Syntax.Origin

/-!
# Malformed syntax

Which malformed regions of a source become constructs of its file, and which warnings are given for
them.

* `SyntaxTree.Tidy`, `tidy_treat`: malformed syntax and parameters hold no constructs.
* `parseErrors_build`: a model warns of each malformed region of its file.
* `Shown`: the malformed regions that the conversion comes to.
* `malformed_shown`: these become constructs and are warned of, and no others.
* `malformed_hidden`: malformed syntax in a class is passed over.
-/

namespace BranchCover

/-- Malformed syntax and parameters hold no constructs. -/
inductive SyntaxTree.Tidy : SyntaxTree → Prop
  | node {label children} : (label.kind = .error ∨ label.kind = .parameter → children = []) →
      (∀ child ∈ children, Tidy child) → Tidy (.node label children)

/-- The malformed regions among some constructs. -/
def errorsIn (labels : List SyntaxLabel) : List SyntaxLabel := labels.filter (·.kind = .error)

theorem filterMap_ite_some {α β : Type} (p : α → Prop) [DecidablePred p] (f : α → β) (l : List α) :
    (l.filterMap fun a => if p a then some (f a) else none) = (l.filter p).map f := by
  induction l with
  | nil => rfl
  | cons a rest ih =>
    by_cases h : p a
    · simp [h, ih]
    · simp [h, ih]

/-! ### Converted trees -/

namespace Conversion

variable {source : List UInt8} {tree : ConcreteTree} {inner : List SyntaxTree}
  {children : List ConcreteTree}
  {labels : List SyntaxLabel} {made : SyntaxTree}

theorem tidy_leaf (label : SyntaxLabel) : (SyntaxTree.node label []).Tidy :=
  .node (fun _ => rfl) (by simp)

theorem tidy_leaves (h : made ∈ leaves labels) : made.Tidy := by
  obtain ⟨label, -, rfl⟩ := List.mem_map.1 h
  exact tidy_leaf label

/-- A construct that is neither malformed nor a parameter may hold others. -/
theorem tidy_node {label : SyntaxLabel} (herror : label.kind ≠ .error)
    (hparameter : label.kind ≠ .parameter)
    (hinner : ∀ tree ∈ inner, tree.Tidy) : (SyntaxTree.node label inner).Tidy :=
  .node (fun h => absurd h (by simp [herror, hparameter])) hinner

theorem tidy_wrap {form : Form} (hinner : ∀ tree ∈ inner, tree.Tidy)
    (h : made ∈ wrap source form tree inner) :
    made.Tidy := by
  cases form with
  | skipped => cases h
  | malformed | identifier =>
    obtain rfl := List.mem_singleton.1 h
    exact tidy_leaf _
  | classDecl | function | ifBranch | when | forLoop | call =>
    obtain rfl := List.mem_singleton.1 h
    exact tidy_node nofun nofun hinner
  | whileLoop =>
    obtain rfl := List.mem_singleton.1 h
    rcases kind_whileLabel source tree with hkind | hkind
    · exact tidy_node (hkind ▸ nofun) (hkind ▸ nofun) hinner
    · exact tidy_node (hkind ▸ nofun) (hkind ▸ nofun) hinner
  | argument | navigation | transparent => exact hinner made h
  | property =>
    rw [wrap] at h
    -- the first variable holds what is inside, and without any it stands for itself
    cases hlabels : propertyLabels source tree with
    | nil =>
      rw [hlabels] at h
      exact hinner made h
    | cons first rest =>
      have hfirst : first.kind = .property :=
        kind_of_mem_propertyLabels (hlabels ▸ List.mem_cons_self)
      rw [hlabels, wrapProperty, List.mem_cons] at h
      rcases h with rfl | h
      · exact tidy_node (by simp [hfirst]) (by simp [hfirst]) hinner
      · exact tidy_leaves h

theorem tidy_treatAll (h : ∀ tree ∈ children, ∀ role, ∀ made ∈ treat source role tree, made.Tidy)
    (roles : List Role) :
    ∀ made ∈ treatAll source roles children, made.Tidy := by
  induction children generalizing roles with
  | nil => cases roles <;> exact nofun
  | cons tree rest ih =>
    obtain ⟨htree, hrest⟩ := List.forall_mem_cons.1 h
    cases roles with
    | nil => exact nofun
    | cons role roles =>
      rw [treatAll]
      exact List.forall_mem_append.2 ⟨htree role, ih hrest roles⟩

/-- In what a node becomes malformed syntax and parameters hold no constructs. -/
theorem tidy_treat (source : List UInt8) (role : Role) (tree : ConcreteTree) :
    ∀ made ∈ treat source role tree, made.Tidy := by
  induction tree using ConcreteTree.children_induction generalizing role with
  | node label children ih =>
    have hinner (roles : List Role) : ∀ made ∈ treatAll source roles children, made.Tidy :=
      tidy_treatAll (fun tree htree role => ih tree htree role) roles
    intro made hmade
    cases role with
    | drop => cases hmade
    | convert => exact tidy_wrap (hinner _) hmade
    | inner => exact hinner _ made hmade
    | classParameters => exact tidy_leaves hmade
    | parameters => exact tidy_leaves hmade
    | subject => exact hinner _ made hmade
    | entry =>
      obtain rfl := List.mem_singleton.1 hmade
      exact tidy_node nofun nofun (hinner _)
    | error =>
      obtain rfl := List.mem_singleton.1 hmade
      exact tidy_leaf _

theorem tidy_nodes_parsedFile (path content : String) (roots : List ConcreteTree) :
    ∀ made ∈ (parsedFile path content roots).nodes, made.Tidy := by
  rw [parsedFile, ← treatAll_map_rootRole]
  exact tidy_treatAll (fun tree _ role => tidy_treat _ role tree) _

end Conversion

/-! ### Warnings of a model -/

namespace Build

/-- The warning of a malformed region. -/
def malformedWarning (file : FileInfo) (label : SyntaxLabel) : Warning where
  kind := .parseError
  message := "Skipped malformed syntax"
  file := some file.path
  line := some (file.lineOf label.start)

/-- The warning of malformed syntax that a finding is. -/
def findingMalformed? : Finding → Option Warning
  | .warning warning => if warning.kind = .parseError then some warning else none
  | _ => none

variable {file : FileInfo} {position : Position} {next : ℕ} {parent : Option ℕ}
  {parameters : ParameterUse}
  {trees : List SyntaxTree} {parsed : ParsedFile}

theorem filterMap_heading_malformed (file : FileInfo) (visit : Visit) :
    (visit.heading file).filterMap findingMalformed? =
      (if visit.tree.label.kind = .error then some (malformedWarning file visit.tree.label)
        else none).toList := by
  obtain ⟨kind, hkind⟩ : ∃ kind, visit.tree.label.kind = kind := ⟨_, rfl⟩
  have hvisit : visit.kind = kind := hkind
  unfold Visit.heading
  cases kind with
  | error => simp [hkind, hvisit, ownFindings, findingMalformed?, malformedWarning]
  | whenEntry => cases visit.parent <;> simp [hkind, hvisit, ownFindings, findingMalformed?]
  | property | reference =>
    by_cases hname : visit.tree.label.name.getD "" = "" <;> simp [hkind, hvisit, ownFindings,
      findingMalformed?, hname]
  | _ => simp [hkind, hvisit, ownFindings, findingMalformed?]

/-- The malformed regions on the walk are those of the trees if these are so inside each. -/
theorem errorsIn_visitsOf (htidy : ∀ tree ∈ trees, tree.Tidy)
    (h : ∀ visit ∈ visitsOf file position next parent parameters trees,
      errorsIn ((visit.walk file).map (·.tree.label)) = errorsIn visit.tree.walk) :
    errorsIn (((visitsOf file position next parent parameters trees).flatMap (Visit.walk file)).map
      (·.tree.label)) =
      errorsIn (SyntaxTree.walkAll trees) := by
  induction trees generalizing next with
  | nil => rfl
  | cons tree rest ih =>
    obtain ⟨htree, hrest⟩ := List.forall_mem_cons.1 htidy
    rw [SyntaxTree.walkAll, errorsIn, errorsIn, List.filter_append]
    rw [visitsOf] at h ⊢
    split_ifs at h ⊢ with hskip
    · obtain ⟨hchildren, -⟩ := htree
      rename_i label children
      -- a parameter that is not met holds nothing that could be missed
      have hkind : label.kind = .parameter := hskip.1
      obtain rfl := hchildren (Or.inr hkind)
      have hwalk : (SyntaxTree.node label []).walk.filter (·.kind = .error) = [] := by
        simp [SyntaxTree.walk, SyntaxTree.walkAll, hkind]
      rw [hwalk]
      exact ih hrest h
    · obtain ⟨hvisit, hvisits⟩ := List.forall_mem_cons.1 h
      rw [List.flatMap_cons, List.map_append, List.filter_append]
      exact congrArg₂ _ hvisit (ih hrest hvisits)

/-- All malformed syntax inside a construct is met. -/
theorem Visit.errorsIn_walk (file : FileInfo) (visit : Visit) (htidy : visit.tree.Tidy) :
    errorsIn ((visit.walk file).map (·.tree.label)) = errorsIn visit.tree.walk := by
  induction visit using Visit.inner_induction file with
  | step visit ih =>
    obtain ⟨tree, position, next, parent⟩ := visit
    obtain ⟨hchildren, hinner⟩ := htidy
    rename_i label children
    rw [Visit.walk_eq, List.map_cons, SyntaxTree.walk, errorsIn, errorsIn, List.filter_cons,
      List.filter_cons]
    have hrest : errorsIn (((Visit.inner file ⟨.node label children, position, next,
      parent⟩).flatMap
        (Visit.walk file)).map (·.tree.label)) = errorsIn (SyntaxTree.walkAll children) := by
      rw [Visit.inner] at ih ⊢
      split_ifs at ih ⊢ with herror
      · obtain rfl := hchildren (Or.inl herror)
        rfl
      · refine errorsIn_visitsOf hinner fun other hother => ih other hother ?_
        exact hinner other.tree (of_mem_visitsOf hother).1
    rw [errorsIn, errorsIn] at hrest
    rw [hrest]
    rfl

theorem errorsIn_visits (htidy : ∀ tree ∈ parsed.nodes, tree.Tidy) :
    errorsIn ((visits parsed).map (·.tree.label)) = errorsIn (SyntaxTree.walkAll parsed.nodes) :=
  errorsIn_visitsOf htidy fun visit hvisit =>
    visit.errorsIn_walk _ (htidy _ (of_mem_visitsOf hvisit).1)

/-- **A model warns of each malformed region of its file**, in their order. -/
theorem parseErrors_build (htidy : ∀ tree ∈ parsed.nodes, tree.Tidy) :
    (Model.build parsed).warnings.filter (·.kind = .parseError) =
      (errorsIn (SyntaxTree.walkAll parsed.nodes)).map (malformedWarning (infoOf parsed)) := by
  have hpick : (Model.build parsed).warnings.filter (·.kind = .parseError) =
      (findingsAll (infoOf parsed) {} 0 none .visit parsed.nodes).filterMap findingMalformed? := by
    rw [Model.build, Model.ofFindings, List.filter_filterMap]
    refine List.filterMap_congr fun finding _ => ?_
    cases finding <;> simp [findingMalformed?, Option.filter]
  rw [hpick, filterMap_findings (fun _ => rfl) (fun _ =>
    rfl) (filterMap_heading_malformed (infoOf parsed)),
    filterMap_ite_some, ← errorsIn_visits htidy, errorsIn, List.filter_map, List.map_map]
  rfl

end Build

/-! ### What is shown of a source -/

namespace Conversion

open Build

/-- A malformed region that the conversion of a file comes to: it is converted, or it stands
directly in a `when`. -/
def Shown (roots : List ConcreteTree) (node : LocatedTree) : Prop :=
  node.tree.isMalformed = true ∧ (ReachedFrom roots .convert node ∨ ReachedFrom roots .error node)

/-- Whether a node in a role is made into a malformed construct. -/
def isShown (found : Role × LocatedTree) : Bool :=
  found.1 = .error || found.1 = .convert && found.2.tree.isMalformed

theorem mem_map_filter_isShown {roots : List ConcreteTree} {node : LocatedTree} :
    node ∈ ((handledIn roots).filter isShown).map Prod.snd ↔ Shown roots node := by
  rw [List.mem_map, Shown]
  constructor
  · rintro ⟨⟨role, _⟩, hfound, rfl⟩
    rw [List.mem_filter, isShown, Bool.or_eq_true, Bool.and_eq_true, decide_eq_true_iff,
      decide_eq_true_iff] at hfound
    obtain ⟨hhandled, rfl | ⟨rfl, hmalformed⟩⟩ := hfound
    · have hreached := (mem_handledIn_iff rfl).1 hhandled
      exact ⟨hreached.fits, Or.inr hreached⟩
    · exact ⟨hmalformed, Or.inl ((mem_handledIn_iff rfl).1 hhandled)⟩
  · rintro ⟨hmalformed, hreached | hreached⟩
    · have hshown : isShown (.convert, node) = true := by simp [isShown, hmalformed]
      exact ⟨_, List.mem_filter.2 ⟨(mem_handledIn_iff rfl).2 hreached, hshown⟩, rfl⟩
    · exact ⟨(.error, node), List.mem_filter.2 ⟨(mem_handledIn_iff rfl).2 hreached, rfl⟩, rfl⟩

theorem formOf_eq_malformed_iff {tree : ConcreteTree} : formOf tree.label = .malformed ↔
    tree.isMalformed = true := by
  constructor
  · intro h
    have hfits := fits_formOf tree
    rwa [h] at hfits
  · exact fun h => if_pos h

/-- What is made of a node is malformed exactly if the node is shown. -/
theorem filter_made? (source : List UInt8) (found : Role × LocatedTree) :
    (made? source found).filter (·.kind = .error) =
      if isShown found then some (errorLabel found.2.tree.label) else none := by
  obtain ⟨role, node⟩ := found
  cases role with
  | drop | inner | classParameters | parameters | subject | entry | error => rfl
  | convert =>
    have hshown : isShown (.convert, node) = decide (formOf node.tree.label = .malformed) := by
      rw [isShown, ← Bool.decide_coe node.tree.isMalformed,
        decide_eq_decide.2 formOf_eq_malformed_iff.symm]
      rfl
    rw [hshown, made?, Role.made?]
    cases formOf node.tree.label with
    | whileLoop => rcases kind_whileLabel source node.tree with h | h <;> simp [h, Option.filter]
    | _ => rfl

theorem errorsIn_traced (trees : List SyntaxTree) :
    errorsIn (traced trees) = errorsIn (SyntaxTree.walkAll trees) := by
  rw [errorsIn, traced, List.filter_filter]
  refine List.filter_congr fun label _ => ?_
  cases hkind : label.kind <;> simp [NodeKind.isTraced]

/-- **Malformed regions that are handed on are reported, and no others.** They become constructs of
the file, and a warning is given for each when the model is built. The root of a concrete tree is
none of the nodes here: the conversion starts with its children. So a source that is malformed as a
whole, which has an `ERROR` as its root, is outside of this; the root itself is never reported. -/
theorem malformed_shown (path : Path) (content : String) (roots : List ConcreteTree) :
    ∃ file, ∃ shown : List LocatedTree, Language.parseSource path content (some roots) = .ok file ∧
      shown.Sublist (ConcreteTree.nodes roots) ∧ (∀ node, node ∈ shown ↔ Shown roots node) ∧
      errorsIn (SyntaxTree.walkAll file.nodes) = shown.map (errorLabel ·.tree.label) ∧
      (Model.build file).warnings.filter (·.kind = .parseError) =
        shown.map fun node => malformedWarning (infoOf file) (errorLabel node.tree.label) := by
  have hsublist : (((handledIn roots).filter isShown).map Prod.snd).Sublist
      (ConcreteTree.nodes roots) :=
    (List.filter_sublist.map _).trans (handledIn_sublist roots)
  have herrors : errorsIn (SyntaxTree.walkAll (parsedFile path.text content roots).nodes) =
      (((handledIn roots).filter isShown).map Prod.snd).map (errorLabel ·.tree.label) := by
    rw [← errorsIn_traced, traced_nodes_parsedFile, errorsIn, List.filter_filterMap, List.map_map]
    rw [List.filterMap_congr fun found _ => filter_made? _ found,
      filterMap_ite_some (isShown · = true)]
    simp only [Bool.decide_eq_true, Function.comp_def]
  refine ⟨_, _, rfl, hsublist, fun node => mem_map_filter_isShown, herrors, ?_⟩
  rw [parseErrors_build (tidy_nodes_parsedFile path.text content roots), herrors, List.map_map]
  rfl

/-- A malformed region with nothing malformed and nothing skipped around it. -/
def Exposed (roots : List ConcreteTree) (node : LocatedTree) : Prop :=
  node ∈ ConcreteTree.nodes roots ∧ node.tree.isMalformed = true ∧
    ∀ outer ∈ ConcreteTree.nodes roots, outer.address <+: node.address →
      outer.address ≠ node.address →
      ¬outer.tree.isMalformed = true ∧ outer.tree.type ∉ skippedTypes

/-- The malformed region of `class Foo ??? { }`. -/
def brokenHead : ConcreteTree :=
  .node { type := "ERROR", start := 10, stop := 13, isError := true } []

/-- A class with malformed syntax before its body. -/
def brokenClass : ConcreteTree :=
  .node { type := "class_declaration", start := 0, stop := 17 }
    [.node { type := "class", start := 0, stop := 5, named := false } [],
     .node { type := "identifier", start := 6, stop := 9, field := some "name" } [], brokenHead,
     .node { type := "class_body", start := 14, stop := 17 }
      [.node { type := "\x7b", start := 14, stop := 15, named := false } [],
       .node { type := "\x7d", start := 16, stop := 17, named := false } []]]

/-- Directly in a class malformed syntax is passed over without a word. -/
theorem malformed_hidden :
    let file := parsedFile "a.kt" "class Foo ??? \x7b \x7d" [brokenClass]
    Exposed [brokenClass] { address := [0, 2], tree := brokenHead } ∧
      errorLabel brokenHead.label ∉ SyntaxTree.walkAll file.nodes ∧
      (Model.build file).warnings = [] := by
  refine ⟨⟨?_, rfl, ?_⟩, by decide +kernel, by decide +kernel⟩
  · simp [ConcreteTree.nodes, ConcreteTree.locatedFrom, brokenClass, ConcreteTree.located,
      LocatedTree.under, brokenHead]
  · simp [ConcreteTree.nodes, ConcreteTree.locatedFrom, brokenClass, ConcreteTree.located,
      LocatedTree.under, brokenHead, ConcreteTree.isMalformed, ConcreteTree.type,
      ConcreteTree.label, skippedTypes]

end Conversion

end BranchCover
