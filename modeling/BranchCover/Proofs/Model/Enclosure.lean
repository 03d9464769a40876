import BranchCover.Proofs.DataFlow.Reaching
import BranchCover.Proofs.Model.Records
import BranchCover.Proofs.Scope

/-!
# Declarations around declarations and their scopes

The path of a class has the names of the classes around it, but not those of functions. The path of
a function has its name behind the path of the declaration around it. So a class encloses all
declarations inside it, and a function encloses those that no class stands between; a class inside a
function is out of its scope, unless names coincide.

* `namesOfKind`, `scopeNames`: the names around a place, and those in the path of its scope.
* `located_positionIn`: the position inside some constructs in terms of these names.
* `mem_declaredScopes`: the scopes of declarations are those of their records.
* `encloses_nested`: which declarations enclose the declarations inside them.
-/

namespace BranchCover

namespace Build

/-! ### Names around a place -/

/-- The names of the constructs of a kind among some, the outermost first. The innermost construct
is listed first. -/
def namesOfKind (kind : NodeKind) (around : List SyntaxTree) : List String :=
  ((around.filter (·.label.kind = kind)).map fun tree => declaredName tree.label).reverse

/-- A package as the first of some names, unless it is empty. -/
def packageNames (package : String) : List String := if package = "" then [] else [package]

/-- The names in the path of the scope inside some constructs. -/
def scopeNames (package : String) : List SyntaxTree → List String
  | [] => []
  | tree :: around =>
    match tree.label.kind with
    | .classDecl => packageNames package ++ namesOfKind .classDecl (tree :: around)
    | .function => scopeNames package around ++ [declaredName tree.label]
    | _ => scopeNames package around

variable {file : FileInfo} {package : String} {tree : SyntaxTree} {around between : List SyntaxTree}
  {kind : NodeKind}

theorem namesOfKind_append (kind : NodeKind) (between around : List SyntaxTree) :
    namesOfKind kind (between ++ around) = namesOfKind kind around ++ namesOfKind kind between := by
  simp [namesOfKind]

theorem namesOfKind_cons (kind : NodeKind) (tree : SyntaxTree) (around : List SyntaxTree) :
    namesOfKind kind (tree :: around) =
      namesOfKind kind around ++ if tree.label.kind = kind then [declaredName tree.label]
        else [] := by
  by_cases h : tree.label.kind = kind <;> simp [namesOfKind, h]

theorem declaredName_ne_empty (label : SyntaxLabel) : declaredName label ≠ "" := by
  unfold declaredName
  split_ifs with h
  · decide
  · exact h

theorem ne_empty_of_mem_namesOfKind {name : String} (h : name ∈ namesOfKind kind around) :
    name ≠ "" := by
  obtain ⟨tree, -, rfl⟩ := List.mem_map.1 (List.mem_reverse.1 h)
  exact declaredName_ne_empty tree.label

theorem scopeNames_class (h : tree.label.kind = .classDecl) :
    scopeNames package (tree :: around) =
      packageNames package ++ namesOfKind .classDecl (tree :: around) := by
  simp only [scopeNames, h]

theorem scopeNames_function (h : tree.label.kind = .function) :
    scopeNames package (tree :: around) =
      scopeNames package around ++ [declaredName tree.label] := by
  simp only [scopeNames, h]

theorem scopeNames_other (hclass : tree.label.kind ≠ .classDecl)
    (hfunction : tree.label.kind ≠ .function) :
    scopeNames package (tree :: around) = scopeNames package around := by
  cases hkind : tree.label.kind <;> simp_all [scopeNames]

/-- A class among the constructs is in its own path. -/
theorem scopeNames_ne_nil (h : tree.label.kind = .classDecl ∨ tree.label.kind = .function) :
    scopeNames package (tree :: around) ≠ [] := by
  rcases h with h | h
  · rw [scopeNames_class h, namesOfKind_cons, if_pos h]
    simp
  · rw [scopeNames_function h]
    simp

theorem ne_empty_of_mem_scopeNames {name : String} (h : name ∈ scopeNames package around) :
    name ≠ "" := by
  induction around with
  | nil => cases h
  | cons tree around ih =>
    by_cases hclass : tree.label.kind = .classDecl
    · rw [scopeNames_class hclass] at h
      rcases List.mem_append.1 h with h | h
      · unfold packageNames at h
        split_ifs at h with hpackage
        · cases h
        · rwa [List.mem_singleton.1 h]
      · exact ne_empty_of_mem_namesOfKind h
    · by_cases hfunction : tree.label.kind = .function
      · rw [scopeNames_function hfunction] at h
        rcases List.mem_append.1 h with h | h
        · exact ih h
        · rw [List.mem_singleton.1 h]
          exact declaredName_ne_empty _
      · rw [scopeNames_other hclass hfunction] at h
        exact ih h

/-! ### The path of a place -/

/-- Names with dots between them. -/
def dotted (names : List String) : String := ".".intercalate names

theorem dotted_append {names others : List String} (hnames : names ≠ []) (hothers : others ≠ []) :
    dotted (names ++ others) = dotted names ++ "." ++ dotted others := by
  rw [← String.toList_inj]
  simp only [dotted, String.toList_intercalate, String.toList_append, List.map_append]
  rw [List.append_assoc]
  exact Text.intercalate_append (by simpa using hnames) (by simpa using hothers)

@[simp] theorem dotted_singleton (name : String) : dotted [name] = name := by
  rw [← String.toList_inj]
  simp [dotted]

theorem dotted_ne_empty {names : List String} (hnames : names ≠ [])
    (h : ∀ name ∈ names, name ≠ "") : dotted names ≠ "" := by
  obtain ⟨first, rest, rfl⟩ := List.exists_cons_of_ne_nil hnames
  cases rest with
  | nil => simpa using h first (by simp)
  | cons second rest =>
    have hsplit := dotted_append (List.cons_ne_nil first []) (List.cons_ne_nil second rest)
    rw [List.singleton_append] at hsplit
    rw [hsplit]
    intro hempty
    have hchars := congrArg String.toList hempty
    simp at hchars

theorem qualify_eq (file : FileInfo) (around : List SyntaxTree) :
    qualify file (namesOfKind .classDecl around) =
      dotted (packageNames file.package ++ namesOfKind .classDecl around) := by
  have hnames : (namesOfKind .classDecl around).filter (· != "") = namesOfKind .classDecl around :=
    List.filter_eq_self.2 fun name hname => by simpa using ne_empty_of_mem_namesOfKind hname
  rw [qualify, List.filter_cons, hnames, dotted, packageNames]
  by_cases hpackage : file.package = "" <;> simp [hpackage]

/-- A position inside some constructs: its path has the names that count, and it knows the class and
the function that a declaration inside it is named for. -/
structure Located (file : FileInfo) (around : List SyntaxTree) (position : Position) : Prop where
  classChain : position.classChain = namesOfKind .classDecl around
  path : Scope.path position.scope = dotted (scopeNames file.package around)
  function : ∀ function, position.function = some function → function.scope = position.scope
  className : position.function = none → ∀ name, position.className = some name →
      name = Scope.path position.scope
  topLevel : position.function = none ∧ position.className = none ↔
      scopeNames file.package around = []

theorem located_inClass {position : Position} (h : Located file around position)
    (hclass : tree.label.kind = .classDecl) :
    Located file (tree :: around) (inClass file position tree.label) := by
  have hchain : position.classChain ++ [declaredName tree.label] =
      namesOfKind .classDecl (tree :: around) := by
    rw [h.classChain, namesOfKind_cons, if_pos hclass]
  refine ⟨hchain, ?_, fun _ hfunction => (nomatch hfunction), fun _ name hname => ?_, ?_⟩
  · rw [inClass, hchain, Scope.path_ofClass, qualify_eq, scopeNames_class hclass]
  · rw [inClass, Scope.path_ofClass]
    exact (Option.some.inj hname).symm
  · simp [inClass, scopeNames_ne_nil (Or.inl hclass)]

theorem located_inFunction {position : Position} (h : Located file around position)
    (hfunction : tree.label.kind = .function) (members : List SyntaxLabel) :
    Located file (tree :: around) (inFunction position
      (functionOf file position tree.label members)) := by
  have hchain : position.classChain = namesOfKind .classDecl (tree :: around) := by
    rw [h.classChain, namesOfKind_cons, if_neg (by simp [hfunction]), List.append_nil]
  refine ⟨hchain, ?_, fun _ hsome => ?_, fun hnone => (nomatch hnone), ?_⟩
  · show Scope.path (functionOf file position tree.label members).scope = _
    rw [scopeNames_function hfunction]
    cases houter : position.function with
    | some outer =>
      have hne : scopeNames file.package around ≠ [] := mt h.topLevel.2 (by simp [houter])
      rw [dotted_append hne (List.cons_ne_nil _ _), dotted_singleton, ← h.path,
        ← h.function outer houter]
      simp [functionOf, houter]
    | none =>
      cases hname : position.className with
      | some name =>
        have hne : scopeNames file.package around ≠ [] := mt h.topLevel.2 (by simp [hname])
        rw [dotted_append hne (List.cons_ne_nil _ _), dotted_singleton, ← h.path,
          ← h.className houter name hname]
        simp [functionOf, houter, hname]
      | none =>
        rw [h.topLevel.1 ⟨houter, hname⟩, List.nil_append, dotted_singleton]
        simp [functionOf, houter, hname]
  · rw [← Option.some.inj hsome]
    rfl
  · simp [inFunction, scopeNames_ne_nil (Or.inr hfunction)]

/-- The position inside some constructs is located there. -/
theorem located_positionIn (file : FileInfo) (around : List SyntaxTree) :
    Located file around (positionIn file around) := by
  induction around with
  | nil =>
    exact ⟨rfl, rfl, fun _ h => (nomatch h), fun _ _ h => (nomatch h),
      by simp [positionIn, scopeNames]⟩
  | cons tree around ih =>
    by_cases hclass : tree.label.kind = .classDecl
    · have hposition : positionIn file (tree :: around) =
          inClass file (positionIn file around) tree.label := by
        simp only [positionIn, hclass]
      rw [hposition]
      exact located_inClass ih hclass
    · by_cases hfunction : tree.label.kind = .function
      · have hposition : positionIn file (tree :: around) = inFunction (positionIn file around)
            (functionOf file (positionIn file around) tree.label
              (tree.children.map (·.label))) := by
          simp only [positionIn, hfunction]
        rw [hposition]
        exact located_inFunction ih hfunction _
      · have hposition : positionIn file (tree :: around) = positionIn file around := by
          cases hkind : tree.label.kind <;> simp_all [positionIn]
        rw [hposition]
        have hchain : namesOfKind .classDecl (tree :: around) = namesOfKind .classDecl around := by
          rw [namesOfKind_cons, if_neg hclass, List.append_nil]
        have hscope : scopeNames file.package (tree :: around) = scopeNames file.package around :=
          scopeNames_other hclass hfunction
        exact ⟨ih.classChain.trans hchain.symm, hscope ▸ ih.path, ih.function, ih.className,
          hscope ▸ ih.topLevel⟩

/-! ### Names inside and around -/

/-- What a class has inside it goes on with its names, and so does what a function has inside it
outside of classes. -/
theorem scopeNames_append (package : String) (around : List SyntaxTree)
    (h : tree.label.kind = .classDecl ∨ ∀ other ∈ between, other.label.kind ≠ .classDecl) :
    ∃ more, scopeNames package (between ++ tree :: around) =
      scopeNames package (tree :: around) ++ more ∧
      ∀ inner ∈ between.head?, inner.label.kind = .classDecl ∨ inner.label.kind = .function →
        more ≠ [] := by
  induction between with
  | nil => exact ⟨[], (List.append_nil _).symm, by simp⟩
  | cons inner between ih =>
    by_cases hclass : inner.label.kind = .classDecl
    · have houter : tree.label.kind = .classDecl :=
        h.resolve_right fun hnone => hnone inner List.mem_cons_self hclass
      refine ⟨namesOfKind .classDecl (inner :: between), ?_, fun _ _ _ => ?_⟩
      · rw [List.cons_append, scopeNames_class hclass, scopeNames_class houter, ← List.cons_append,
          namesOfKind_append, List.append_assoc]
      · rw [namesOfKind_cons, if_pos hclass]
        simp
    · obtain ⟨more, hmore, -⟩ := ih (h.imp_right fun hnone other hother =>
        hnone other (List.mem_cons_of_mem _ hother))
      by_cases hfunction : inner.label.kind = .function
      · refine ⟨more ++ [declaredName inner.label], ?_, fun _ _ _ => by simp⟩
        rw [List.cons_append, scopeNames_function hfunction, hmore, List.append_assoc]
      · refine ⟨more, ?_, fun other hother hkind => ?_⟩
        · rw [List.cons_append, scopeNames_other hclass hfunction, hmore]
        · obtain rfl := Option.some.inj hother
          exact absurd hkind (not_or.2 ⟨hclass, hfunction⟩)

/-- The names in a path are those of the package and the classes, if there are classes, and then
some of functions. -/
theorem scopeNames_eq (package : String) (around : List SyntaxTree) :
    ∃ functions, (∀ name ∈ functions, name ∈ namesOfKind .function around) ∧
      scopeNames package around =
        (if namesOfKind .classDecl around = [] then []
          else packageNames package ++ namesOfKind .classDecl around)
          ++ functions := by
  induction around with
  | nil => exact ⟨[], by simp, by simp [scopeNames, namesOfKind]⟩
  | cons tree around ih =>
    by_cases hclass : tree.label.kind = .classDecl
    · refine ⟨[], by simp, ?_⟩
      have hne : namesOfKind .classDecl (tree :: around) ≠ [] := by
        rw [namesOfKind_cons, if_pos hclass]
        simp
      rw [scopeNames_class hclass, if_neg hne, List.append_nil]
    · obtain ⟨functions, hfunctions, hnames⟩ := ih
      have hclasses : namesOfKind .classDecl (tree :: around) = namesOfKind .classDecl around := by
        rw [namesOfKind_cons, if_neg hclass, List.append_nil]
      by_cases hfunction : tree.label.kind = .function
      · refine ⟨functions ++ [declaredName tree.label], ?_, ?_⟩
        · rw [namesOfKind_cons, if_pos hfunction]
          intro name hname
          rw [List.mem_append] at hname ⊢
          exact hname.imp_left (hfunctions name)
        · rw [scopeNames_function hfunction, hnames, hclasses, List.append_assoc]
      · refine ⟨functions, ?_, ?_⟩
        · rwa [namesOfKind_cons, if_neg hfunction, List.append_nil]
        · rw [scopeNames_other hclass hfunction, hnames, hclasses]

/-- Where a class stands inside a function, the path of what is inside the class goes on with the
name of the package or of a class at the place where the path of the function goes on with the name
of a function. -/
theorem scopeNames_diverge (package : String) (around : List SyntaxTree)
    (hfunction : tree.label.kind = .function)
    (hclass : ∃ other ∈ between, other.label.kind = .classDecl) :
    ∃ common function functions name names,
      scopeNames package (tree :: around) = common ++ function :: functions ∧
      scopeNames package (between ++ tree :: around) = common ++ name :: names ∧
      function ∈ namesOfKind .function (tree :: around) ∧
      (name ∈ packageNames package ∨ name ∈ namesOfKind .classDecl between) := by
  obtain ⟨inherited, hinherited, houter⟩ := scopeNames_eq package around
  obtain ⟨others, -, hinner⟩ := scopeNames_eq package (between ++ tree :: around)
  have hclasses : namesOfKind .classDecl (tree :: around) = namesOfKind .classDecl around := by
    rw [namesOfKind_cons, if_neg (by simp [hfunction]), List.append_nil]
  have hfunctions : namesOfKind .function (tree :: around) =
      namesOfKind .function around ++ [declaredName tree.label] := by
    rw [namesOfKind_cons, if_pos hfunction]
  obtain ⟨function, functions, hown⟩ :
      ∃ function functions, inherited ++ [declaredName tree.label] = function :: functions :=
    List.exists_cons_of_ne_nil (by simp)
  have hmem : function ∈ namesOfKind .function (tree :: around) := by
    have hfirst : function ∈ inherited ++ [declaredName tree.label] := hown ▸ List.mem_cons_self
    rw [hfunctions]
    rw [List.mem_append] at hfirst ⊢
    exact hfirst.imp_left (hinherited function)
  obtain ⟨first, rest, hfirst⟩ : ∃ first rest, namesOfKind .classDecl between = first :: rest := by
    refine List.exists_cons_of_ne_nil ?_
    obtain ⟨other, hother, hkind⟩ := hclass
    simpa [namesOfKind] using ⟨other, hother, hkind⟩
  rw [namesOfKind_append, hclasses, if_neg (by simp [hfirst]), hfirst] at hinner
  rw [scopeNames_function hfunction, houter, List.append_assoc, hown, hinner]
  by_cases hnone : namesOfKind .classDecl around = []
  · -- a function outside of classes has no package in its path
    rw [if_pos hnone, hnone]
    by_cases hpackage : package = ""
    · exact ⟨[], function, functions, first, rest ++ others, rfl,
        by simp [packageNames, hpackage], hmem, Or.inr (hfirst ▸ List.mem_cons_self)⟩
    · exact ⟨[], function, functions, package, first :: rest ++ others, rfl,
        by simp [packageNames, hpackage], hmem, Or.inl (by simp [packageNames, hpackage])⟩
  · rw [if_neg hnone]
    exact ⟨_, function, functions, first, rest ++ others, rfl, by simp, hmem,
      Or.inr (hfirst ▸ List.mem_cons_self)⟩

end Build

namespace PlacedTree

open Build

/-- A class or a function. -/
def IsDeclaration (node : PlacedTree) : Prop := node.kind = .classDecl ∨ node.kind = .function

instance : DecidablePred IsDeclaration := fun _ => inferInstanceAs (Decidable (_ ∨ _))

/-- The record of a class. -/
def classDecl (file : FileInfo) (node : PlacedTree) : ClassDecl :=
  classOf file (node.position file) node.tree.label (node.tree.children.map (·.label))

/-- The scope of what stands directly inside a construct; of a declaration, its own scope. -/
def scope (file : FileInfo) (node : PlacedTree) : String :=
  (positionIn file (node.tree :: node.outer)).scope

/-- A construct and the constructs around it, the innermost first. -/
def around (node : PlacedTree) : List SyntaxTree := node.tree :: node.outer

end PlacedTree

namespace Build

variable {file : FileInfo} {parsed : ParsedFile} {outer inner node : PlacedTree}
  {between : List SyntaxTree}

theorem path_scope (file : FileInfo) (node : PlacedTree) :
    Scope.path (node.scope file) = dotted (scopeNames file.package node.around) :=
  (located_positionIn file _).path

theorem scope_classDecl (h : node.kind = .classDecl) :
    (node.classDecl file).scope = node.scope file := by
  have hkind : node.tree.label.kind = .classDecl := h
  simp only [PlacedTree.scope, positionIn, hkind]
  rfl

theorem scope_function (h : node.kind = .function) :
    (node.function file).scope = node.scope file := by
  have hkind : node.tree.label.kind = .function := h
  simp only [PlacedTree.scope, positionIn, hkind]
  rfl

/-! ### The scopes of declarations -/

/-- The scopes of the classes and functions of a model. -/
def declaredScopes (model : Model) : List String :=
  model.classes.map (·.scope) ++ model.functions.map (·.scope)

theorem exists_visit (h : node ∈ metTrees parsed) :
    ∃ visit ∈ visits parsed, IsVisitOf (infoOf parsed) node visit := by
  obtain ⟨hlength, hvisit⟩ := List.forall₂_iff_get.1 (forall₂_visits parsed)
  obtain ⟨i, hi, rfl⟩ := List.mem_iff_getElem.1 h
  exact ⟨_, List.getElem_mem (hlength ▸ hi), hvisit i hi (hlength ▸ hi)⟩

/-- The scopes of the declarations that the walk comes to are those of their records. -/
theorem mem_declaredScopes (h : node ∈ metTrees parsed) (hdecl : node.IsDeclaration) :
    node.scope (infoOf parsed) ∈ declaredScopes (Model.build parsed).model := by
  obtain ⟨visit, hvisit, htree, hposition, -⟩ := exists_visit h
  have hkind : visit.kind = node.kind := congrArg (·.label.kind) htree
  refine List.mem_append.2 ?_
  rcases hdecl with hclass | hfunction
  · refine Or.inl (List.mem_map.2 ⟨node.classDecl (infoOf parsed), ?_, scope_classDecl hclass⟩)
    refine List.mem_filterMap.2 ⟨.classDecl (node.classDecl (infoOf parsed)), ?_, rfl⟩
    refine (findings_perm parsed).mem_iff.2 (List.mem_flatMap.2 ⟨visit, hvisit, ?_⟩)
    have hrecord : visit.classDecl (infoOf parsed) = node.classDecl (infoOf parsed) := by
      rw [Visit.classDecl, htree, hposition]
      rfl
    simp [Visit.given, Visit.closing, hkind, hclass, hrecord]
  · refine Or.inr (List.mem_map.2 ⟨node.function (infoOf parsed), ?_, scope_function hfunction⟩)
    rw [functions_build]
    refine List.mem_filterMap.2 ⟨visit, hvisit, ?_⟩
    rw [Visit.function?, if_pos (hkind.trans hfunction), Visit.function, htree, hposition]
    rfl

/-! ### Enclosure -/

/-- The scope of a class encloses all declarations inside it, and that of a function those that no
class stands between. -/
theorem encloses_scope (houter : outer.IsDeclaration) (hinner : inner.IsDeclaration)
    (hin : inner.around = between ++ outer.around) (hne : between ≠ [])
    (h : outer.kind = .classDecl ∨ ∀ other ∈ between, other.label.kind ≠ .classDecl) :
    Scope.encloses (outer.scope file) (inner.scope file) = true := by
  obtain ⟨more, hnames, hmore⟩ := scopeNames_append file.package outer.outer h
  have hhead : inner.tree ∈ between.head? := by
    obtain ⟨first, rest, rfl⟩ := List.exists_cons_of_ne_nil hne
    rw [(List.cons.inj hin).1]
    rfl
  have hnonempty : scopeNames file.package outer.around ≠ [] := scopeNames_ne_nil houter
  have hpath : Scope.path (inner.scope file) =
      Scope.path (outer.scope file) ++ "." ++ dotted more := by
    rw [path_scope, path_scope, hin]
    exact (congrArg dotted hnames).trans (dotted_append hnonempty (hmore _ hhead hinner))
  refine Scope.encloses_iff.2 (Or.inr (Or.inr ⟨?_, (dotted more).toList, ?_⟩))
  · rw [path_scope]
    exact dotted_ne_empty hnonempty fun name hname => ne_empty_of_mem_scopeNames hname
  · rw [hpath]
    simp

theorem parts_scope (h : node.IsDeclaration) :
    Scope.parts (node.scope file) =
      (scopeNames file.package node.around).flatMap fun name =>
        Text.splitAtChars (· == '.') name.toList := by
  have hne : (scopeNames file.package node.around).map String.toList ≠ [] :=
    mt List.map_eq_nil_iff.1 (scopeNames_ne_nil h)
  rw [Scope.parts, path_scope, dotted, String.toList_intercalate]
  refine (Text.splitAtChars_intercalate rfl hne).trans ?_
  rw [List.flatMap_map]

/-- No name of a declaration among some constructs has a dot, and no function among them has the
name of a class among them or of a part of the package. -/
structure NamesApart (package : String) (around : List SyntaxTree) : Prop where
  plain : ∀ tree ∈ around, tree.label.kind = .classDecl ∨ tree.label.kind = .function →
    '.' ∉ (declaredName tree.label).toList
  apart : ∀ name ∈ namesOfKind .function around, name ∉ namesOfKind .classDecl around ∧
    name.toList ∉ Text.splitAtChars (· == '.') package.toList

theorem NamesApart.split {package name : String} {around : List SyntaxTree} {kind : NodeKind}
    (h : NamesApart package around) (hkind : kind = .classDecl ∨ kind = .function)
    (hname : name ∈ namesOfKind kind around) :
    Text.splitAtChars (· == '.') name.toList = [name.toList] := by
  obtain ⟨tree, htree, rfl⟩ := List.mem_map.1 (List.mem_reverse.1 hname)
  obtain ⟨hmem, htreeKind⟩ := List.mem_filter.1 htree
  have hdecl : tree.label.kind = .classDecl ∨ tree.label.kind = .function := by
    rwa [of_decide_eq_true htreeKind]
  exact Text.splitAtChars_eq_singleton (Text.beq_eq_false_of_notMem (h.plain tree hmem hdecl))

/-- A class inside a function is out of its scope, if the names do not coincide. -/
theorem not_encloses_scope (houter : outer.kind = .function) (hinner : inner.IsDeclaration)
    (hin : inner.around = between ++ outer.around)
    (hclass : ∃ other ∈ between, other.label.kind = .classDecl)
    (hapart : NamesApart file.package inner.around) :
    Scope.encloses (outer.scope file) (inner.scope file) = false := by
  rw [← Bool.not_eq_true]
  intro hencloses
  obtain ⟨more, hparts⟩ : ∃ more, Scope.parts (inner.scope file) =
      Scope.parts (outer.scope file) ++ more := by
    rcases Scope.encloses_iff_parts.1 hencloses with hsame | hglobal | ⟨-, more, -, hparts⟩
    · exact ⟨[], by rw [hsame, List.append_nil]⟩
    · have hnonempty : scopeNames file.package outer.around ≠ [] :=
        scopeNames_ne_nil (Or.inr houter)
      have hempty := path_scope file outer
      rw [hglobal, Scope.path_global] at hempty
      exact absurd hempty.symm (dotted_ne_empty hnonempty fun name hname =>
        ne_empty_of_mem_scopeNames hname)
    · exact ⟨more, hparts⟩
  obtain ⟨common, function, functions, name, names, hfunctions, hnames, hfunction, hname⟩ :=
    scopeNames_diverge file.package outer.outer houter hclass
  have hfunctionAround : function ∈ namesOfKind .function inner.around := by
    rw [hin, namesOfKind_append]
    exact List.mem_append_left _ hfunction
  have hinnerNames : scopeNames file.package inner.around = common ++ name :: names := by
    rw [hin]; exact hnames
  rw [parts_scope hinner, parts_scope (Or.inr houter), hinnerNames, PlacedTree.around, hfunctions,
    List.flatMap_append, List.flatMap_append, List.append_assoc, List.append_cancel_left_eq,
    List.flatMap_cons, List.flatMap_cons, hapart.split (Or.inr rfl) hfunctionAround,
    List.singleton_append] at hparts
  rcases hname with hpackage | hclassName
  · obtain ⟨-, rfl⟩ : file.package ≠ "" ∧ name = file.package := by
      unfold packageNames at hpackage
      split_ifs at hpackage with hempty
      · cases hpackage
      · exact ⟨hempty, List.mem_singleton.1 hpackage⟩
    obtain ⟨first, rest, hsplit⟩ :=
      List.exists_cons_of_ne_nil (Text.splitAtChars_ne_nil (· == '.') file.package.toList)
    rw [hsplit] at hparts
    have hsame : first = function.toList := (List.cons.inj hparts).1
    exact (hapart.apart function hfunctionAround).2
      (by rw [hsplit, hsame]; exact List.mem_cons_self)
  · have hclassAround : name ∈ namesOfKind .classDecl inner.around := by
      rw [hin, namesOfKind_append]
      exact List.mem_append_right _ hclassName
    rw [hapart.split (Or.inl rfl) hclassAround, List.singleton_append] at hparts
    have hsame : name = function := String.toList_inj.1 (List.cons.inj hparts).1
    exact (hapart.apart function hfunctionAround).1 (hsame ▸ hclassAround)

/-- **Which declarations enclose the declarations inside them.** The scopes of two declarations of a
file, one inside the other, are scopes of records. If the outer one is a class, or no class stands
between them, the inner one included, then the scope of the outer one encloses that of the inner
one, so that what is declared in the outer one can reach the uses in the inner one that stand behind
it. If names do not coincide, it encloses it in no other case. -/
theorem encloses_nested (houter : outer ∈ metTrees parsed) (hinner : inner ∈ metTrees parsed)
    (houterDecl : outer.IsDeclaration) (hinnerDecl : inner.IsDeclaration)
    (hin : inner.around = between ++ outer.around)
    (hne : between ≠ []) :
    let file := infoOf parsed
    (outer.scope file ∈ declaredScopes (Model.build parsed).model ∧
      inner.scope file ∈ declaredScopes (Model.build parsed).model) ∧
    (outer.kind = .classDecl ∨ (∀ other ∈ between, other.label.kind ≠ .classDecl) →
      Scope.encloses (outer.scope file) (inner.scope file) = true ∧
      ∀ definition use, definition.scope = outer.scope file → use.scope = inner.scope file →
        definition.name = use.name →
        (definition.file = use.file → definition.line < use.line) →
        DataFlow.Candidate use definition) ∧
    (NamesApart file.package inner.around →
      (Scope.encloses (outer.scope file) (inner.scope file) = true ↔
        outer.kind = .classDecl ∨ ∀ other ∈ between, other.label.kind ≠ .classDecl)) := by
  refine ⟨⟨mem_declaredScopes houter houterDecl, mem_declaredScopes hinner hinnerDecl⟩, fun h => ?_,
    fun hapart => ?_⟩
  · have hencloses : Scope.encloses (outer.scope (infoOf parsed)) (inner.scope (infoOf parsed)) =
        true :=
      encloses_scope houterDecl hinnerDecl hin hne h
    refine ⟨hencloses, fun definition use hdefinition huse hname hline => ⟨hname, ?_, hline⟩⟩
    rw [hdefinition, huse]
    exact hencloses
  · refine ⟨fun hencloses => ?_, encloses_scope houterDecl hinnerDecl hin hne⟩
    by_contra hnot
    obtain ⟨hclass, hbetween⟩ := not_or.1 hnot
    push Not at hbetween
    have hfunction : outer.kind = .function := houterDecl.resolve_left hclass
    rw [not_encloses_scope hfunction hinnerDecl hin hbetween hapart] at hencloses
    cases hencloses

/-- A declaration of a name with what is inside it. -/
def namedTree (kind : NodeKind) (name : String) (children : List SyntaxTree) : SyntaxTree :=
  .node { kind, start := 0, stop := 1, name := some name } children

/-- A class with a method, a function inside it, and a class inside that. -/
def layered : PlacedTree × PlacedTree × PlacedTree :=
  let add := namedTree .function "add" []
  let cart := namedTree .classDecl "Cart" [add]
  let checkout := namedTree .function "checkout" [cart]
  let shop := namedTree .classDecl "Shop" [checkout]
  (⟨[], shop⟩, ⟨[shop], checkout⟩, ⟨[cart, checkout, shop], add⟩)

/-- The file that is made of it. -/
def shopFile : ParsedFile where
  path := "a.kt"
  content := ""
  package := "demo"
  nodes := [layered.1.tree]

/-- The class encloses the method of the class inside its method, and its method does not. -/
theorem encloses_nested_layered :
    Scope.encloses "class:demo.Shop" "method:demo.Shop.Cart.add" = true ∧
      Scope.encloses "method:demo.Shop.checkout" "method:demo.Shop.Cart.add" = false := by
  have hshop : layered.1 ∈ metTrees shopFile :=
    List.mem_filter.2 ⟨by simp [shopFile, layered, namedTree,
    SyntaxTree.placedAll, SyntaxTree.placed], by decide⟩
  have hcheckout : layered.2.1 ∈ metTrees shopFile :=
    List.mem_filter.2 ⟨by simp [shopFile, layered, namedTree,
    SyntaxTree.placedAll, SyntaxTree.placed], by decide⟩
  have hadd : layered.2.2 ∈ metTrees shopFile :=
    List.mem_filter.2 ⟨by simp [shopFile, layered, namedTree,
    SyntaxTree.placedAll, SyntaxTree.placed], by decide⟩
  have hapart : NamesApart "demo" layered.2.2.around := ⟨by decide, by decide⟩
  have hclassIn : layered.2.2.around = layered.2.2.around.take 3 ++ layered.1.around := rfl
  have hfunctionIn : layered.2.2.around = layered.2.2.around.take 2 ++ layered.2.1.around := rfl
  have hclass := encloses_nested hshop hadd (by decide) (by decide) hclassIn (by decide)
  have hfunction := encloses_nested hcheckout hadd (by decide) (by decide) hfunctionIn (by decide)
  refine ⟨(hclass.2.1 (Or.inl rfl)).1, ?_⟩
  rw [← Bool.not_eq_true]
  exact mt (hfunction.2.2 hapart).1 (by decide)

/-- A class inside a function outside of classes: its scope is that of a class of the package. -/
theorem encloses_localClass :
    ∃ parsed, ∃ outer ∈ metTrees parsed, ∃ inner ∈ metTrees parsed, inner.outer = outer.around ∧
      outer.scope (infoOf parsed) = "function:outer" ∧ inner.scope (infoOf parsed) = "class:Local" ∧
      Scope.encloses "function:outer" "class:Local" = false := by
  refine ⟨{ path := "a.kt", content := "",
            nodes := [namedTree .function "outer" [namedTree .classDecl "Local" []]] },
    ⟨[], namedTree .function "outer" [namedTree .classDecl "Local" []]⟩, ?_,
    ⟨[namedTree .function "outer" [namedTree .classDecl "Local" []]],
      namedTree .classDecl "Local" []⟩, ?_, rfl,
    by decide, by decide, by decide⟩
  · exact List.mem_filter.2 ⟨by simp [namedTree, SyntaxTree.placedAll, SyntaxTree.placed],
      by decide⟩
  · exact List.mem_filter.2 ⟨by simp [namedTree, SyntaxTree.placedAll, SyntaxTree.placed],
      by decide⟩

end Build

end BranchCover
