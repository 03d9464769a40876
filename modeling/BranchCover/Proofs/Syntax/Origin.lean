import BranchCover.Proofs.Syntax.Handing
import BranchCover.Syntax.Language
import Mathlib.Data.List.Forall2

/-!
# Where constructs come from

Each construct of a source file, apart from its parameters and properties, is made from a node of
the concrete tree of its own, and constructs stand in the order of their nodes.

* `handled`: the nodes that the conversion comes to, with their roles.
* `Reaches`, `mem_handled_iff`: they are those that are handed on step by step.
* `Role.made?`, `traced_treat`: the construct that a node is made into in a role.
* `ComesFrom`, `parse_origins`: the nodes of the constructs of a file.
-/

namespace BranchCover

/-- Whether each construct of a kind is made from a node of its own. All properties that are
declared together come from one node, and what a parameter comes from is read by its function or
class. -/
def NodeKind.isTraced : NodeKind → Bool
  | .parameter | .property => false
  | _ => true

theorem SyntaxTree.walkAll_append (trees others : List SyntaxTree) :
    walkAll (trees ++ others) = walkAll trees ++ walkAll others := by
  induction trees with
  | nil => rfl
  | cons tree rest ih => rw [List.cons_append, walkAll, ih, walkAll, List.append_assoc]

namespace Conversion

/-! ### The nodes that are handled -/

mutual

/-- The nodes that the conversion of a node in a role comes to, each with its own role and before
those inside it. -/
def handled (role : Role) : ConcreteTree → List (Role × LocatedTree)
  | .node label children =>
    (role, { address := [], tree := .node label children }) ::
      handledFrom 0 (role.below label children) children

/-- The nodes that the conversion of several trees comes to, the first of which stands at a
place. -/
def handledFrom (place : ℕ) : List Role → List ConcreteTree → List (Role × LocatedTree)
  | role :: roles, tree :: rest =>
    (handled role tree).map (Prod.map id (LocatedTree.under place)) ++
      handledFrom (place + 1) roles rest
  | _, _ => []

end

/-- The conversion of a node in a role comes to a node inside it, which has a role of its own. -/
inductive Reaches : Role → ConcreteTree → Role → LocatedTree → Prop
  | here {role tree} : Reaches role tree role { address := [], tree }
  | inside {role label before child after given last node} :
      Hands role label before child after given →
      Reaches given child last node →
      Reaches role (.node label (before ++ child :: after)) last (node.under before.length)

section Handled

variable {role given last : Role} {roles : List Role} {place : ℕ} {label : ConcreteLabel}
  {tree child : ConcreteTree}
  {children trees : List ConcreteTree} {node : LocatedTree} {found : Role × LocatedTree}

/-- What gives no constructs comes to nothing that does. -/
theorem Reaches.passes (h : Reaches role tree last node) (hlast : last.passes = true) :
    role.passes = true := by
  cases h with
  | here => exact hlast
  | inside hhands _ => cases hhands <;> rfl

@[simp] theorem handledFrom_nil (place : ℕ) (trees : List ConcreteTree) :
    handledFrom place [] trees = [] := by
  cases trees <;> rfl

/-- Nothing is handled twice, and all in the order of the nodes. -/
theorem handledFrom_sublist
    (h : ∀ tree ∈ trees, ∀ role, ((handled role tree).map Prod.snd).Sublist tree.located)
    (place : ℕ) (roles : List Role) :
    ((handledFrom place roles trees).map Prod.snd).Sublist
    (ConcreteTree.locatedFrom place trees) := by
  induction trees generalizing place roles with
  | nil => cases roles <;> exact List.Sublist.refl []
  | cons tree rest ih =>
    obtain ⟨htree, hrest⟩ := List.forall_mem_cons.1 h
    cases roles with
    | nil => exact List.nil_sublist _
    | cons role roles =>
      have hunder : ((handled role tree).map (Prod.map id (LocatedTree.under place))).map Prod.snd =
          ((handled role tree).map Prod.snd).map (LocatedTree.under place) := by
        simp [Function.comp_def]
      rw [handledFrom, ConcreteTree.locatedFrom, List.map_append, hunder]
      exact ((htree role).map _).append (ih hrest (place + 1) roles)

theorem handled_sublist (role : Role) (tree : ConcreteTree) :
    ((handled role tree).map Prod.snd).Sublist tree.located := by
  induction tree using ConcreteTree.children_induction generalizing role with
  | node label children ih =>
    rw [handled, ConcreteTree.located, List.map_cons]
    exact (handledFrom_sublist (fun child hchild role => ih child hchild role) 0 _).cons_cons _

theorem mem_handledFrom_iff : found ∈ handledFrom place roles trees ↔
    ∃ before child after role inner, trees = before ++ child :: after ∧
      roles[before.length]? = some role ∧
      inner ∈ handled role child ∧ found = (inner.1, inner.2.under (place + before.length)) := by
  induction trees generalizing place roles with
  | nil =>
    cases roles <;> simp [handledFrom]
  | cons tree rest ih =>
    cases roles with
    | nil => simp
    | cons role roles =>
      rw [handledFrom, List.mem_append, List.mem_map, ih]
      constructor
      · rintro (⟨inner, hinner, rfl⟩ | ⟨before, child, after, given, inner, rfl, hrole,
          hinner, rfl⟩)
        · exact ⟨[], tree, rest, role, inner, rfl, rfl, hinner, rfl⟩
        · exact ⟨tree :: before, child, after, given, inner, rfl, hrole, hinner, by
            rw [List.length_cons, Nat.add_right_comm, Nat.add_assoc]⟩
      · rintro ⟨before, child, after, given, inner, htrees, hrole, hinner, rfl⟩
        cases before with
        | nil =>
          obtain ⟨rfl, rfl⟩ := List.cons.inj htrees
          obtain rfl := Option.some.inj hrole
          exact Or.inl ⟨inner, hinner, rfl⟩
        | cons first before =>
          obtain ⟨rfl, rfl⟩ := List.cons.inj htrees
          exact Or.inr ⟨before, child, after, given, inner, rfl, hrole, hinner, by
            rw [List.length_cons, Nat.add_right_comm, Nat.add_assoc]⟩

/-- **The nodes that are handled are those that are handed on step by step.** -/
theorem mem_handled_iff (hpasses : last.passes = true) :
    (last, node) ∈ handled role tree ↔ Reaches role tree last node := by
  constructor
  · intro h
    induction tree using ConcreteTree.children_induction generalizing role node with
    | node label children ih =>
      rw [handled, List.mem_cons] at h
      rcases h with h | h
      · obtain ⟨rfl, rfl⟩ := Prod.mk.inj h
        exact .here
      · obtain ⟨before, child, after, given, ⟨other, inner⟩, rfl, hgiven, hinner, hfound⟩ :=
          mem_handledFrom_iff.1 h
        obtain ⟨rfl, rfl⟩ := Prod.mk.inj hfound
        have hreaches : Reaches given child last inner := ih child (by simp) hinner
        rw [Nat.zero_add]
        exact .inside ((hands_iff (hreaches.passes hpasses)).2 hgiven) hreaches
  · intro h
    induction h with
    | here =>
      rename_i tree
      cases tree
      exact List.mem_cons_self
    | inside hhands hreaches ih =>
      rename_i before child after given last node
      have hgiven := (hands_iff (hreaches.passes hpasses)).1 hhands
      refine List.mem_cons_of_mem _ (mem_handledFrom_iff.2 ?_)
      exact ⟨before, child, after, given, (last, node), rfl, hgiven, ih hpasses,
        by rw [Nat.zero_add]⟩

end Handled

/-! ### The constructs that nodes are made into -/

/-- The construct that a node in a role is made into, if it is one with a node of its own. -/
def Role.made? (source : List UInt8) (role : Role) (tree : ConcreteTree) : Option SyntaxLabel :=
  match role with
  | .convert =>
    match formOf tree.label with
    | .malformed => some (errorLabel tree.label)
    | .identifier => some (referenceLabel source tree)
    | .classDecl => some (classLabel source tree)
    | .function => some (functionLabel source tree)
    | .ifBranch => some (ifLabel source tree)
    | .when => some (whenLabel source tree)
    | .forLoop => some (forLabel source tree)
    | .whileLoop => some (whileLabel source tree)
    | .call => some (callLabel source tree)
    | .skipped | .property | .argument | .navigation | .transparent => none
  | .entry => some (entryLabel source tree)
  | .error => some (errorLabel tree.label)
  | .drop | .inner | .classParameters | .parameters | .subject => none

/-- The constructs of some trees that are made from nodes of their own. -/
def traced (trees : List SyntaxTree) : List SyntaxLabel :=
  (SyntaxTree.walkAll trees).filter (·.kind.isTraced)

section Made

variable {source : List UInt8} {role : Role} {tree : ConcreteTree} {label : SyntaxLabel}
  {labels : List SyntaxLabel}
  {trees others inner : List SyntaxTree}
  {children : List ConcreteTree}

theorem traced_append (trees others : List SyntaxTree) :
    traced (trees ++ others) = traced trees ++ traced others := by
  rw [traced, SyntaxTree.walkAll_append, List.filter_append, traced, traced]

theorem traced_node_of_traced (h : label.kind.isTraced = true) :
    traced [.node label inner] = label :: traced inner := by
  simp [traced, SyntaxTree.walkAll, SyntaxTree.walk, h]

theorem traced_node_of_not_traced (h : ¬label.kind.isTraced = true) :
    traced [.node label inner] = traced inner := by
  simp [traced, SyntaxTree.walkAll, SyntaxTree.walk, h]

theorem traced_leaves (h : ∀ label ∈ labels, ¬label.kind.isTraced = true) :
    traced (leaves labels) = [] := by
  induction labels with
  | nil => rfl
  | cons label rest ih =>
    obtain ⟨hlabel, hrest⟩ := List.forall_mem_cons.1 h
    rw [leaves, List.map_cons, ← List.singleton_append, traced_append,
      traced_node_of_not_traced hlabel]
    exact ih hrest

/-! #### Parameters and properties -/

theorem kind_of_mem_classParametersOf
    (h : ∀ tree ∈ children, ∀ label ∈ classParameters source tree, label.kind = .parameter)
    (hlabel : label ∈ classParametersOf source children) : label.kind = .parameter := by
  induction children with
  | nil => cases hlabel
  | cons tree rest ih =>
    obtain ⟨htree, hrest⟩ := List.forall_mem_cons.1 h
    rw [classParametersOf, List.mem_append] at hlabel
    rcases hlabel with hlabel | hlabel
    · split_ifs at hlabel with _ _ _
      · cases hlabel
      · exact htree label hlabel
      · obtain rfl := List.mem_singleton.1 (List.mem_of_mem_filter hlabel)
        rfl
      · cases hlabel
    · exact ih hrest hlabel

theorem kind_of_mem_classParameters (h : label ∈ classParameters source tree) :
    label.kind = .parameter := by
  induction tree using ConcreteTree.children_induction generalizing label with
  | node _ children ih =>
    rw [classParameters] at h
    exact kind_of_mem_classParametersOf (fun tree htree label hlabel => ih tree htree hlabel) h

theorem ParameterList.kind_of_mem_add {list : ParameterList}
    (h : ∀ label ∈ list.read, label.kind = .parameter) :
    ∀ label ∈ (list.add source tree).read, label.kind = .parameter := by
  rw [ParameterList.add]
  split_ifs
  · exact h
  · exact List.forall_mem_cons.2 ⟨rfl, h⟩
  · exact h
  · split
    next => exact h
    next last before hread =>
      rw [hread] at h
      obtain ⟨hlast, hbefore⟩ := List.forall_mem_cons.1 h
      exact List.forall_mem_cons.2 ⟨hlast, hbefore⟩
  · exact h

theorem kind_of_mem_functionParameters (h : label ∈ functionParameters source tree) :
    label.kind = .parameter := by
  have hread : ∀ label ∈ (tree.children.foldl (ParameterList.add source) {}).read,
      label.kind = .parameter :=
    List.foldlRecOn tree.children (ParameterList.add source) (motive := fun list =>
      ∀ label ∈ list.read, label.kind = .parameter) (by
        simp) fun list hlist tree _ => list.kind_of_mem_add hlist
  exact hread label (List.mem_reverse.1 (List.mem_of_mem_filter h))

theorem kind_of_mem_propertyLabels (h : label ∈ propertyLabels source tree) :
    label.kind = .property := by
  obtain ⟨declaration, -, rfl⟩ := List.mem_map.1 (List.mem_of_mem_filter h)
  rfl

theorem traced_wrapProperty (h : ∀ label ∈ labels, ¬label.kind.isTraced = true) :
    traced (wrapProperty labels inner) = traced inner := by
  cases labels with
  | nil => rfl
  | cons first rest =>
    obtain ⟨hfirst, hrest⟩ := List.forall_mem_cons.1 h
    rw [wrapProperty, ← List.singleton_append, traced_append, traced_node_of_not_traced hfirst]
    exact (congrArg _ (traced_leaves hrest)).trans (List.append_nil _)

/-! #### Constructs of all trees -/

theorem kind_whileLabel (source : List UInt8) (tree : ConcreteTree) :
    (whileLabel source tree).kind = .whileLoop ∨ (whileLabel source tree).kind = .doWhileLoop := by
  rw [whileLabel]
  split_ifs
  · exact Or.inr rfl
  · exact Or.inl rfl

/-- The constructs that a converted node becomes are its own and those inside it. -/
theorem traced_wrap (tree : ConcreteTree)
    (hinner : formOf tree.label ∈ [.malformed, .skipped, .identifier] → inner = []) :
    traced (wrap source (formOf tree.label) tree inner) =
      (Role.made? source .convert tree).toList ++ traced inner := by
  rw [Role.made?]
  generalize formOf tree.label = form at hinner
  cases form with
  | malformed | skipped | identifier =>
    obtain rfl := hinner (by decide)
    rfl
  | classDecl | function | ifBranch | when | forLoop | call => exact traced_node_of_traced rfl
  | whileLoop =>
    have htraced : (whileLabel source tree).kind.isTraced = true := by
      rcases kind_whileLabel source tree with h | h <;> rw [h] <;> rfl
    exact traced_node_of_traced htraced
  | property =>
    refine traced_wrapProperty fun label hlabel => ?_
    rw [kind_of_mem_propertyLabels hlabel]
    decide
  | argument | navigation | transparent => rfl

/-- The construct that a handled node is made into. -/
def made? (source : List UInt8) (found : Role × LocatedTree) : Option SyntaxLabel :=
  found.1.made? source found.2.tree

theorem filterMap_made?_under (found : List (Role × LocatedTree)) (place : ℕ) :
    (found.map (Prod.map id (LocatedTree.under place))).filterMap (made? source) =
      found.filterMap (made? source) := by
  rw [List.filterMap_map]
  rfl

theorem treatAll_nil (source : List UInt8) (trees : List ConcreteTree) :
    treatAll source [] trees = [] := by
  cases trees <;> rfl

theorem filterMap_cons_toList {α β : Type} (f : α → Option β) (a : α) (l : List α) :
    (a :: l).filterMap f = (f a).toList ++ l.filterMap f := by
  cases h : f a <;> simp [h]

theorem traced_treatAll
    (h : ∀ tree ∈ children, ∀ role, traced (treat source role tree) =
      (handled role tree).filterMap (made? source))
    (place : ℕ) (roles : List Role) :
    traced (treatAll source roles children) =
      (handledFrom place roles children).filterMap (made? source) := by
  induction children generalizing place roles with
  | nil => cases roles <;> rfl
  | cons tree rest ih =>
    obtain ⟨htree, hrest⟩ := List.forall_mem_cons.1 h
    cases roles with
    | nil => rfl
    | cons role roles =>
      rw [treatAll, handledFrom, traced_append, List.filterMap_append, filterMap_made?_under, htree,
        ih hrest]


/-- **The constructs of a tree are those that the handled nodes are made into.** -/
theorem traced_treat (source : List UInt8) (role : Role) (tree : ConcreteTree) :
    traced (treat source role tree) = (handled role tree).filterMap (made? source) := by
  induction tree using ConcreteTree.children_induction generalizing role with
  | node label children ih =>
    have hinner (roles : List Role) : traced (treatAll source roles children) =
        (handledFrom 0 roles children).filterMap (made? source) :=
      traced_treatAll (fun tree htree role => ih tree htree role) 0 roles
    -- a node that is dropped or read as a whole gives its children no roles
    have hleaf : (handledFrom 0 [] children).filterMap (made? source) = [] := by
      rw [handledFrom_nil]; rfl
    rw [handled]
    cases role with
    | drop => exact hleaf.symm
    | convert =>
      have hconstruct : formOf label ∈ [.malformed, .skipped, .identifier] →
          treatAll source (rolesOf (formOf label) children) children = [] := by
        intro hform
        simp only [List.mem_cons, List.not_mem_nil, or_false] at hform
        rcases hform with hform | hform | hform <;> rw [hform, rolesOf, treatAll_nil]
      rw [filterMap_cons_toList, Role.below, ← hinner]
      exact traced_wrap (.node label children) hconstruct
    | inner => exact hinner _
    | classParameters =>
      refine Eq.trans (traced_leaves fun label hlabel => ?_) hleaf.symm
      rw [kind_of_mem_classParameters hlabel]
      decide
    | parameters =>
      refine Eq.trans (traced_leaves fun label hlabel => ?_) hleaf.symm
      rw [kind_of_mem_functionParameters hlabel]
      decide
    | subject => exact hinner _
    | entry => exact (traced_node_of_traced rfl).trans (congrArg _ (hinner _))
    | error => exact (traced_node_of_traced rfl).trans (congrArg _ hleaf.symm)

end Made

/-! ### Files -/

/-- What happens to a node at the top of a file. -/
def rootRole (tree : ConcreteTree) : Role :=
  if tree.type == "package_header" || tree.type == "import" then .drop else .convert

/-- The nodes that the conversion of a file comes to. -/
def handledIn (roots : List ConcreteTree) : List (Role × LocatedTree) :=
  handledFrom 0 (roots.map rootRole) roots

/-- The conversion of a file comes to a node. -/
def ReachedFrom (roots : List ConcreteTree) (last : Role) (node : LocatedTree) : Prop :=
  ∃ before child after inner, roots = before ++ child :: after ∧ rootRole child = .convert ∧
    Reaches .convert child last inner ∧ node = inner.under before.length

section Files

variable {roots : List ConcreteTree} {last : Role} {node : LocatedTree}

theorem handledIn_sublist (roots : List ConcreteTree) :
    ((handledIn roots).map Prod.snd).Sublist (ConcreteTree.nodes roots) :=
  handledFrom_sublist (fun tree _ role => handled_sublist role tree) 0 _

/-- The nodes that are handled in a file are those that are handed on from the top. -/
theorem mem_handledIn_iff (hpasses : last.passes = true) :
    (last, node) ∈ handledIn roots ↔ ReachedFrom roots last node := by
  rw [handledIn, mem_handledFrom_iff]
  constructor
  · rintro ⟨before, child, after, role, ⟨other, inner⟩, rfl, hrole, hinner, hfound⟩
    obtain ⟨rfl, rfl⟩ := Prod.mk.inj hfound
    rw [getElem?_map_append_cons, Option.some.injEq] at hrole
    subst hrole
    have hreaches := (mem_handled_iff hpasses).1 hinner
    -- a header or an import would hand nothing on
    have hroot : rootRole child = .convert := by
      have hpasses := hreaches.passes hpasses
      rw [rootRole] at hpasses ⊢
      split_ifs at hpasses ⊢
      · cases hpasses
      · rfl
    rw [hroot] at hreaches
    exact ⟨before, child, after, inner, rfl, hroot, hreaches, by rw [Nat.zero_add]⟩
  · rintro ⟨before, child, after, inner, rfl, hroot, hreaches, rfl⟩
    refine ⟨before, child, after, .convert, (last, inner), rfl, ?_,
      (mem_handled_iff hpasses).2 hreaches, by
      rw [Nat.zero_add]⟩
    rw [getElem?_map_append_cons, hroot]

theorem treatAll_map_rootRole (source : List UInt8) (roots : List ConcreteTree) :
    treatAll source (roots.map rootRole) roots =
      (roots.filter fun tree => tree.type != "package_header" && tree.type != "import").flatMap
        (convert source) := by
  induction roots with
  | nil => rfl
  | cons tree rest ih =>
    rw [List.map_cons, treatAll, ih, List.filter_cons, rootRole]
    by_cases hroot : (tree.type == "package_header" || tree.type == "import") = true
    · have hskip : (tree.type != "package_header" && tree.type != "import") = false := by
        rw [bne, bne, ← Bool.not_or, hroot, Bool.not_true]
      obtain ⟨label, children⟩ := tree
      rw [if_pos hroot, hskip, treat, List.nil_append]
      rfl
    · have hkeep : (tree.type != "package_header" && tree.type != "import") = true := by
        rw [bne, bne, ← Bool.not_or, Bool.eq_false_iff.2 hroot, Bool.not_false]
      rw [if_neg hroot, hkeep, if_pos rfl, List.flatMap_cons, convert]

/-- The constructs of a file are those that the nodes handled in it are made into. -/
theorem traced_nodes_parsedFile (path content : String) (roots : List ConcreteTree) :
    traced (parsedFile path content roots).nodes =
      (handledIn roots).filterMap (made? (Utf8.encode content.toList)) := by
  rw [parsedFile, ← treatAll_map_rootRole]
  exact traced_treatAll (fun tree _ role => traced_treat _ role tree) 0 _

end Files

/-! ### Origins -/

/-- The types of the nodes that constructs of a kind are made from. -/
def concreteTypes : NodeKind → List String
  | .classDecl => classTypes
  | .function => ["function_declaration"]
  | .parameter => ["parameter", "class_parameter"]
  | .property => ["property_declaration"]
  | .ifBranch => ["if_expression"]
  | .when => ["when_expression"]
  | .whenEntry => ["when_entry"]
  | .forLoop => ["for_statement"]
  | .whileLoop => ["while_statement"]
  | .doWhileLoop => ["do_while_statement"]
  | .call => ["call_expression"]
  | .reference => ["identifier"]
  | .error => ["ERROR"]

/-- A construct is made from a node of a concrete tree. -/
structure ComesFrom (source : List UInt8) (label : SyntaxLabel) (node : ConcreteTree) : Prop where
  start_eq : label.start = node.label.start
  stop_eq : label.stop = node.label.stop
  type_mem : node.type ∈ concreteTypes label.kind ∨ label.kind = .error ∧ node.label.isError = true
  name_eq : label.kind = .reference → label.name = some (node.text source)

/-- What a node must be to have a role. -/
def Role.Fits (role : Role) (tree : ConcreteTree) : Prop :=
  match role with
  | .entry => tree.type = "when_entry"
  | .error => tree.isMalformed = true
  | _ => True

/-- What the form of a node says of its type. -/
def Form.Fits (form : Form) (tree : ConcreteTree) : Prop :=
  match form with
  | .malformed => tree.isMalformed = true
  | .skipped => tree.type ∈ skippedTypes
  | .classDecl => tree.type ∈ classTypes
  | .function => tree.type = "function_declaration"
  | .property => tree.type = "property_declaration"
  | .ifBranch => tree.type = "if_expression"
  | .when => tree.type = "when_expression"
  | .forLoop => tree.type = "for_statement"
  | .whileLoop => tree.type = "while_statement" ∨ tree.type = "do_while_statement"
  | .call => tree.type = "call_expression"
  | .argument => tree.type = "value_argument"
  | .navigation => tree.type = "navigation_expression"
  | .identifier => tree.type = "identifier"
  | .transparent => True

theorem fits_formOf (tree : ConcreteTree) : (formOf tree.label).Fits tree := by
  rw [formOf]
  split_ifs with hmalformed hskipped hclass
  · exact hmalformed
  · exact List.contains_iff_mem.1 hskipped
  · exact List.contains_iff_mem.1 hclass
  · split
    all_goals first | assumption | exact Or.inl ‹_› | exact Or.inr ‹_› | trivial

theorem Hands.fits {role given : Role} {label : ConcreteLabel} {before after : List ConcreteTree}
    {child : ConcreteTree}
    (h : Hands role label before child after given) : given.Fits child := by
  cases h with
  | entry _ htype => exact htype
  | malformed _ hmalformed => exact hmalformed
  | _ => trivial

theorem Reaches.fits {role last : Role} {tree : ConcreteTree} {node : LocatedTree}
    (h : Reaches role tree last node)
    (hrole : role.Fits tree) : last.Fits node.tree := by
  induction h with
  | here => exact hrole
  | inside hhands _ ih => exact ih hhands.fits

theorem ReachedFrom.fits {roots : List ConcreteTree} {last : Role} {node : LocatedTree}
    (h : ReachedFrom roots last node) : last.Fits node.tree := by
  obtain ⟨before, child, after, inner, -, -, hreaches, rfl⟩ := h
  exact hreaches.fits trivial

theorem comesFrom_errorLabel {source : List UInt8} {tree : ConcreteTree}
    (h : tree.isMalformed = true) :
    ComesFrom source (errorLabel tree.label) tree := by
  refine ⟨rfl, rfl, ?_, nofun⟩
  rw [ConcreteTree.isMalformed, Bool.or_eq_true, beq_iff_eq] at h
  exact h.symm.imp List.mem_singleton.2 fun h => ⟨rfl, h⟩

/-- A construct is made from the node that was handled. -/
theorem comesFrom_of_made? {source : List UInt8} {role : Role} {tree : ConcreteTree}
    {label : SyntaxLabel}
    (hfits : role.Fits tree) (h : role.made? source tree = some label) :
      ComesFrom source label tree := by
  cases role with
  | drop | inner | classParameters | parameters | subject => cases h
  | entry =>
    obtain rfl := Option.some.inj h
    exact ⟨rfl, rfl, Or.inl (List.mem_singleton.2 hfits), nofun⟩
  | error =>
    obtain rfl := Option.some.inj h
    exact comesFrom_errorLabel hfits
  | convert =>
    have hform := fits_formOf tree
    rw [Role.made?] at h
    generalize formOf tree.label = form at h hform
    cases form with
    | skipped | property | argument | navigation | transparent => cases h
    | malformed =>
      obtain rfl := Option.some.inj h
      exact comesFrom_errorLabel hform
    | identifier =>
      obtain rfl := Option.some.inj h
      exact ⟨rfl, rfl, Or.inl (List.mem_singleton.2 hform), fun _ => rfl⟩
    | classDecl =>
      obtain rfl := Option.some.inj h
      exact ⟨rfl, rfl, Or.inl hform, nofun⟩
    | function | ifBranch | when | forLoop | call =>
      obtain rfl := Option.some.inj h
      exact ⟨rfl, rfl, Or.inl (List.mem_singleton.2 hform), nofun⟩
    | whileLoop =>
      obtain rfl := Option.some.inj h
      rcases hform with htype | htype
      · have hkind : (whileLabel source tree).kind = .whileLoop := by simp [whileLabel, htype]
        exact ⟨rfl, rfl, Or.inl (by simp [hkind, concreteTypes, htype]), by simp [hkind]⟩
      · have hkind : (whileLabel source tree).kind = .doWhileLoop := by simp [whileLabel, htype]
        exact ⟨rfl, rfl, Or.inl (by simp [hkind, concreteTypes, htype]), by simp [hkind]⟩

/-- A handled node that is made into a construct is where the construct comes from. -/
theorem comesFrom_of_mem_handledIn {source : List UInt8} {roots : List ConcreteTree}
    {found : Role × LocatedTree}
    {label : SyntaxLabel} (hfound : found ∈ handledIn roots) (h : made? source found = some label) :
    ComesFrom source label found.2.tree := by
  obtain ⟨role, node⟩ := found
  refine comesFrom_of_made? ?_ h
  by_cases hpasses : role.passes = true
  · exact ((mem_handledIn_iff hpasses).1 hfound).fits
  · cases role with
    | drop | classParameters | parameters => trivial
    | convert | inner | subject | entry | error => exact absurd rfl hpasses

/-- What is made of some elements, and the elements that it is made of. -/
theorem forall₂_filterMap {α β : Type} {R : β → α → Prop} {f : α → Option β} {l : List α}
    (h : ∀ a ∈ l, ∀ b, f a = some b → R b a) : List.Forall₂ R (l.filterMap f)
    (l.filter fun a => (f a).isSome) := by
  induction l with
  | nil => exact .nil
  | cons a rest ih =>
    obtain ⟨ha, hrest⟩ := List.forall_mem_cons.1 h
    rw [List.filterMap_cons, List.filter_cons]
    cases hmade : f a with
    | none => exact ih hrest
    | some b => exact .cons (ha b hmade) (ih hrest)

/-- **Nothing is made twice or out of order.** The constructs of a source, apart from its parameters
and properties, are made from nodes of the concrete tree one by one: from different nodes, in the
order of the nodes. -/
theorem parse_origins (path : Path) (content : String) (roots : List ConcreteTree) :
    ∃ file origins, Language.parseSource path content (some roots) = .ok file ∧
      origins.Sublist (ConcreteTree.nodes roots) ∧ (origins.map (·.address)).Nodup ∧
      List.Forall₂ (fun label origin =>
        ComesFrom (Utf8.encode content.toList) label origin.tree) (traced file.nodes)
        origins := by
  let source := Utf8.encode content.toList
  have hsublist : (((handledIn roots).filter fun found =>
    (made? source found).isSome).map Prod.snd).Sublist
      (ConcreteTree.nodes roots) := (List.filter_sublist.map _).trans (handledIn_sublist roots)
  refine ⟨_, _, rfl, hsublist, (ConcreteTree.nodup_address_nodes roots).sublist (hsublist.map _),
    ?_⟩
  rw [traced_nodes_parsedFile, List.forall₂_map_right_iff]
  exact forall₂_filterMap fun found hfound label h => comesFrom_of_mem_handledIn hfound h

end Conversion

end BranchCover
