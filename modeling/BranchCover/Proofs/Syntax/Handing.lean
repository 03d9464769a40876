import BranchCover.Proofs.Syntax.Node
import BranchCover.Syntax.Conversion

/-!
# What is handed on

The conversion gives each node a role, from the role of its parent and from the children beside it.
The rules below say which children are handed on, and as what; all others come to nothing.

* `Role.below`: the roles that a node in a role gives its children.
* `Hands`: the rules by which a node hands on a child.
* `hands_iff`: the rules are those of the conversion.
-/

namespace BranchCover.Conversion

/-- The roles that a node in a role gives its children. -/
def Role.below (role : Role) (label : ConcreteLabel) (children : List ConcreteTree) : List Role :=
  match role with
  | .convert => rolesOf (formOf label) children
  | .inner => children.map fun _ => .convert
  | .subject => subjectRoles false children
  | .entry => entryRoles false children
  | .drop | .classParameters | .parameters | .error => []

/-- Whether a node in a role may give constructs other than parameters. -/
def Role.passes : Role → Bool
  | .drop | .classParameters | .parameters => false
  | .convert | .inner | .subject | .entry | .error => true

/-! ### Rules -/

/-- The first child of a kind that opens was met, and behind it none that fills the opening; and
none that blocks it was met at all. -/
def Awaits (opens fills blocks : ConcreteTree → Bool) (before : List ConcreteTree) : Prop :=
  (∀ other ∈ before, ¬blocks other) ∧
    ∃ head opening between, before = head ++ opening :: between ∧ (∀ other ∈ head, ¬opens other) ∧
      opens opening ∧
      ∀ other ∈ between, ¬fills other

/-- Whether a child of a property is converted where it stands: a delegate or an accessor. -/
def isAccessor (tree : ConcreteTree) : Bool :=
  tree.type == "property_delegate" || tree.type == "getter" || tree.type == "setter"

/-- Whether a child of a property may be its initializer. -/
def isInitial (tree : ConcreteTree) : Bool :=
  tree.named && !isPropertyHead tree.type && tree.type != "=" && !isAccessor tree

/-- Behind some children of a property the initializer is awaited: behind `=`, without a
delegate. -/
def AwaitsInitializer : List ConcreteTree → Prop :=
  Awaits (·.type == "=") isInitial (·.type == "property_delegate")

/-- Whether a child of a subject may be what stands in the parentheses. -/
def isSubject (tree : ConcreteTree) : Bool := tree.type != "(" && isParenthesized tree

/-- Behind some children of a subject what stands in the parentheses is awaited. -/
def AwaitsSubject : List ConcreteTree → Prop := Awaits (·.type == "(") isSubject fun _ => false

/-- Whether a child of a `for` declares the variable. -/
def isLoopVariable (tree : ConcreteTree) : Bool :=
  tree.named && (tree.type == "variable_declaration" || tree.type == "multi_variable_declaration")

/-- Whether a child of a `for` is a construct behind the variable if the variable came before. -/
def isLoopConstruct (tree : ConcreteTree) : Bool :=
  tree.named && !isComment tree.type && tree.type != "annotation"

/-- Whether a child of an entry is a construct. Before the arrow `else` is none. -/
def isCase (afterArrow : Bool) (tree : ConcreteTree) : Bool :=
  tree.named && !isComment tree.type && tree.type != "->" && (tree.type != "else" || afterArrow)

/-- The rules by which a node in a role hands on the child between some others, and the role of the
child. -/
inductive Hands : Role → ConcreteLabel → List ConcreteTree → ConcreteTree → List ConcreteTree →
    Role → Prop
  /-- An `if`, a `while`, a call and a node that is no construct hand on all. -/
  | all {label before child after} : formOf label ∈ [.ifBranch, .whileLoop, .call, .transparent] →
      Hands .convert label before child after .convert
  /-- So do bodies, delegates and accessors. -/
  | inner {label before child after} : Hands .inner label before child after .convert
  | classBody {label before child after} : formOf label = .classDecl →
      child.type = "class_body" ∨ child.type = "enum_class_body" →
      Hands .convert label before child after .inner
  | functionBody {label before child after} :
      formOf label = .function → child.type = "function_body" →
      Hands .convert label before child after .inner
  | accessor {label before child after} : formOf label = .property → isAccessor child →
      Hands .convert label before child after .inner
  | initializer {label before child after} : formOf label = .property → AwaitsInitializer before →
      isInitial child →
      Hands .convert label before child after .convert
  | subject {label before child after} : formOf label = .when → child.type = "when_subject" →
      Hands .convert label before child after .subject
  | parenthesized {label before child after} : AwaitsSubject before → isSubject child →
      Hands .subject label before child after .convert
  | entry {label before child after} : formOf label = .when → child.type = "when_entry" →
      Hands .convert label before child after .entry
  /-- A case of an entry, or its body. -/
  | case {label before child after} : isCase (before.any (·.type == "->")) child →
      Hands .entry label before child after .convert
  /-- Malformed syntax directly in a `when`. -/
  | malformed {label before child after} : formOf label = .when → child.isMalformed →
      child.type ≠ "when_subject" →
      child.type ≠ "when_entry" → Hands .convert label before child after .error
  | loop {label before child after} : formOf label = .forLoop → isLoopConstruct child →
      (∃ declaration ∈ before, isLoopVariable declaration) →
        Hands .convert label before child after .convert
  /-- An argument without a name, or what stands behind its `=`. -/
  | argument {label before child after} : formOf label = .argument →
      (∃ equals ∈ before, equals.type = "=") ∨
        (∀ other ∈ before ++ child :: after, other.type ≠ "=") →
      Hands .convert label before child after .convert
  /-- A navigation hands on all but the member that it selects. -/
  | receiver {label before child after} : formOf label = .navigation →
      before = [] ∨ after ≠ [] ∨ ¬isIdentifier child →
      Hands .convert label before child after .convert

/-! ### Roles given in one pass -/

section Scan

variable {σ : Type} {give : σ → ConcreteTree → Role} {next : σ → ConcreteTree → σ}

/-- Roles given one after another, each from what was met before. -/
def scanRoles (give : σ → ConcreteTree → Role) (next : σ → ConcreteTree → σ) :
    σ → List ConcreteTree → List Role
  | _, [] => []
  | state, tree :: rest => give state tree :: scanRoles give next (next state tree) rest

/-- The role of the child behind some others. -/
theorem getElem?_scanRoles (state : σ) (before after : List ConcreteTree) (child : ConcreteTree) :
    (scanRoles give next state (before ++ child :: after))[before.length]? =
      some (give (before.foldl next state) child) := by
  induction before generalizing state with
  | nil => rfl
  | cons first before ih => exact ih (next state first)

/-- What is met once stays so. -/
theorem foldl_or (p : ConcreteTree → Bool) (state : Bool) (trees : List ConcreteTree) :
    trees.foldl (fun met tree => met || p tree) state = (state || trees.any p) := by
  induction trees generalizing state with
  | nil => simp
  | cons tree rest ih => rw [List.foldl_cons, ih, List.any_cons, Bool.or_assoc]

end Scan

section Awaits

variable {opens fills blocks : ConcreteTree → Bool} {before : List ConcreteTree}

/-- Whether the opening was met, and whether it is filled or blocked. -/
def nextOpening (opens fills blocks : ConcreteTree → Bool) (state : Bool × Bool)
    (tree : ConcreteTree) : Bool × Bool :=
  (state.1 || opens tree, state.2 || blocks tree || state.1 && fills tree)

theorem snd_foldl_nextOpening (opened : Bool) (before : List ConcreteTree) :
    (before.foldl (nextOpening opens fills blocks) (opened, true)).2 = true := by
  induction before generalizing opened with
  | nil => rfl
  | cons tree rest ih => exact ih _

theorem foldl_nextOpening_opened :
    before.foldl (nextOpening opens fills blocks) (true, false) = (true, false) ↔
      ∀ other ∈ before, ¬blocks other ∧ ¬fills other := by
  induction before with
  | nil => simp
  | cons tree rest ih =>
    rw [List.foldl_cons, List.forall_mem_cons]
    by_cases hfilled : blocks tree || fills tree
    · have hnext : nextOpening opens fills blocks (true, false) tree = (true, true) := by
        simpa [nextOpening] using hfilled
      constructor
      · intro h
        have hsnd : (rest.foldl (nextOpening opens fills blocks) (true, true)).2 = true :=
          snd_foldl_nextOpening true rest
        rw [hnext] at h
        rw [h] at hsnd
        cases hsnd
      · rintro ⟨⟨hblocks, hfills⟩, -⟩
        simp [hblocks, hfills] at hfilled
    · rw [Bool.not_eq_true, Bool.or_eq_false_iff] at hfilled
      have hnext : nextOpening opens fills blocks (true, false) tree = (true, false) := by
        simp [nextOpening, hfilled]
      rw [hnext, ih]
      simp [hfilled]

theorem awaits_cons_of_opens {tree : ConcreteTree} (hopens : opens tree) :
    Awaits opens fills blocks (tree :: before) ↔
    ¬blocks tree ∧ ∀ other ∈ before, ¬blocks other ∧ ¬fills other := by
  rw [Awaits, List.forall_mem_cons]
  constructor
  · rintro ⟨⟨htree, hblocks⟩, head, opening, between, hbefore, hhead, -, hfills⟩
    cases head with
    | nil =>
      obtain ⟨rfl, rfl⟩ := List.cons.inj hbefore
      exact ⟨htree, fun other hother => ⟨hblocks other hother, hfills other hother⟩⟩
    | cons first head =>
      obtain ⟨rfl, -⟩ := List.cons.inj hbefore
      exact absurd hopens (hhead tree List.mem_cons_self)
  · rintro ⟨htree, h⟩
    exact ⟨⟨htree, fun other hother => (h other hother).1⟩, [], tree, before, rfl, by simp, hopens,
      fun other hother => (h other hother).2⟩

theorem awaits_cons_of_not_opens {tree : ConcreteTree} (hopens : ¬opens tree) :
    Awaits opens fills blocks (tree :: before) ↔
    ¬blocks tree ∧ Awaits opens fills blocks before := by
  rw [Awaits, Awaits, List.forall_mem_cons, and_assoc]
  refine and_congr_right fun _ => and_congr_right fun _ => ?_
  constructor
  · rintro ⟨head, opening, between, hbefore, hhead, hopening, hfills⟩
    cases head with
    | nil =>
      obtain ⟨rfl, -⟩ := List.cons.inj hbefore
      exact absurd hopening hopens
    | cons first head =>
      obtain ⟨-, rfl⟩ := List.cons.inj hbefore
      exact ⟨head, opening, between, rfl,
        fun other hother => hhead other (List.mem_cons_of_mem _ hother), hopening, hfills⟩
  · rintro ⟨head, opening, between, rfl, hhead, hopening, hfills⟩
    exact ⟨tree :: head, opening, between, rfl, List.forall_mem_cons.2 ⟨hopens, hhead⟩,
      hopening, hfills⟩

/-- The state that is reached says whether an opening is to be filled. -/
theorem foldl_nextOpening_iff :
    before.foldl (nextOpening opens fills blocks) (false, false) = (true, false) ↔
      Awaits opens fills blocks before := by
  induction before with
  | nil => simp [Awaits]
  | cons tree rest ih =>
    rw [List.foldl_cons]
    by_cases hblocks : blocks tree
    · have hnext : nextOpening opens fills blocks (false, false) tree = (opens tree, true) := by
        simp [nextOpening, hblocks]
      have hsnd : (rest.foldl (nextOpening opens fills blocks) (opens tree, true)).2 = true :=
        snd_foldl_nextOpening (opens tree) rest
      rw [hnext]
      constructor
      · intro h
        rw [h] at hsnd
        cases hsnd
      · rintro ⟨h, -⟩
        exact absurd hblocks (h tree List.mem_cons_self)
    · by_cases hopens : opens tree
      · have hnext : nextOpening opens fills blocks (false, false) tree = (true, false) := by
          simp [nextOpening, hblocks, hopens]
        rw [hnext, foldl_nextOpening_opened, awaits_cons_of_opens hopens, and_iff_right hblocks]
      · have hnext : nextOpening opens fills blocks (false, false) tree = (false, false) := by
          simp [nextOpening, hblocks, hopens]
        rw [hnext, ih, awaits_cons_of_not_opens hopens, and_iff_right hblocks]

end Awaits

/-! ### The roles of each form -/

section Forms

variable {label : ConcreteLabel} {before after : List ConcreteTree} {child : ConcreteTree}
  {role : Role}

theorem beq_eq_false_of_isPropertyHead {type word : String} (h : isPropertyHead type = true)
    (hword : isPropertyHead word = false) : (type == word) = false := by
  rw [beq_eq_false_iff_ne]
  rintro rfl
  rw [hword] at h
  cases h

/-- The role of a child of a property, by whether an `=` and whether an initializer came before. -/
def propertyRole (state : Bool × Bool) (tree : ConcreteTree) : Role :=
  if isAccessor tree then .inner
  else if state = (true, false) ∧ isInitial tree then .convert
  else .drop

theorem propertyRoles_eq (afterEquals hasInitializer : Bool) (children : List ConcreteTree) :
    propertyRoles afterEquals hasInitializer children =
      scanRoles propertyRole (nextOpening (·.type == "=") isInitial (·.type == "property_delegate"))
        (afterEquals, hasInitializer) children := by
  induction children generalizing afterEquals hasInitializer with
  | nil => rfl
  | cons tree rest ih =>
    rw [propertyRoles, scanRoles, nextOpening]
    by_cases hhead : isPropertyHead tree.type
    · have hequals : (tree.type == "=") = false := beq_eq_false_of_isPropertyHead hhead (by decide)
      have hdelegate : (tree.type == "property_delegate") = false :=
        beq_eq_false_of_isPropertyHead hhead (by decide)
      have hgetter : (tree.type == "getter") = false :=
        beq_eq_false_of_isPropertyHead hhead (by decide)
      have hsetter : (tree.type == "setter") = false :=
        beq_eq_false_of_isPropertyHead hhead (by decide)
      simp [hhead, ih, hequals, hdelegate, hgetter, hsetter, propertyRole, isAccessor, isInitial]
    · rw [if_neg hhead]
      split
      next h => simp [ih, h, propertyRole, isAccessor, isInitial]
      next h => simp [ih, h, propertyRole, isAccessor, isInitial]
      next h => simp [ih, h, propertyRole, isAccessor, isInitial]
      next h => simp [ih, h, propertyRole, isAccessor, isInitial]
      next hequals hdelegate hgetter hsetter =>
        have hequals : (tree.type == "=") = false := beq_eq_false_iff_ne.2 hequals
        have hdelegate : (tree.type == "property_delegate") = false :=
          beq_eq_false_iff_ne.2 hdelegate
        have hgetter : (tree.type == "getter") = false := beq_eq_false_iff_ne.2 hgetter
        have hsetter : (tree.type == "setter") = false := beq_eq_false_iff_ne.2 hsetter
        have haccessor : isAccessor tree = false := by
          simp [isAccessor, hdelegate, hgetter, hsetter]
        have hinitial : isInitial tree = tree.named := by
          simp [isInitial, hhead, hequals, haccessor, bne]
        cases afterEquals <;> cases hasInitializer <;> cases hnamed : tree.named <;>
          simp [propertyRole, ih, hequals, hdelegate, haccessor, hinitial, hnamed]

/-- The role of a child of a `for`, by whether the variable came before. -/
def forRole (seenVariable : Bool) (tree : ConcreteTree) : Role :=
  if isLoopConstruct tree && seenVariable then .convert else .drop

theorem isLoopConstruct_of_isLoopVariable {tree : ConcreteTree} (h : isLoopVariable tree = true) :
    isLoopConstruct tree = true := by
  obtain ⟨hnamed, htype | htype⟩ : tree.named = true ∧
      (tree.type = "variable_declaration" ∨ tree.type = "multi_variable_declaration") := by
    simpa [isLoopVariable] using h
  · simp [isLoopConstruct, hnamed, htype, isComment]
  · simp [isLoopConstruct, hnamed, htype, isComment]

theorem forRoles_eq (seenVariable : Bool) (children : List ConcreteTree) :
    forRoles seenVariable children =
      scanRoles forRole (fun seen tree => seen || isLoopVariable tree) seenVariable children := by
  induction children generalizing seenVariable with
  | nil => rfl
  | cons tree rest ih =>
    have hskip : (!tree.named || isComment tree.type || tree.type == "annotation") =
        !isLoopConstruct tree := by
      simp [isLoopConstruct, bne]
    rw [forRoles, scanRoles, forRole, hskip]
    by_cases hconstruct : isLoopConstruct tree
    · have hnamed : tree.named = true :=
        (by simpa [isLoopConstruct] using hconstruct : (_ ∧ _) ∧ _).1.1
      have hvariable : isLoopVariable tree =
          (tree.type == "variable_declaration" || tree.type == "multi_variable_declaration") := by
        simp [isLoopVariable, hnamed]
      rw [← hvariable]
      cases seenVariable <;> cases isLoopVariable tree <;> simp [hconstruct, ih]
    · have hvariable : isLoopVariable tree = false := by
        rw [Bool.eq_false_iff]
        exact fun h => hconstruct (isLoopConstruct_of_isLoopVariable h)
      simp [hconstruct, hvariable, ih]

/-- The role of a child of an entry, by whether the arrow came before. -/
def entryRole (afterArrow : Bool) (tree : ConcreteTree) : Role :=
  if isCase afterArrow tree then .convert else .drop

theorem entryRoles_eq (afterArrow : Bool) (children : List ConcreteTree) :
    entryRoles afterArrow children =
      scanRoles entryRole (fun past tree => past || tree.type == "->") afterArrow children := by
  induction children generalizing afterArrow with
  | nil => rfl
  | cons tree rest ih =>
    rw [entryRoles, scanRoles, entryRole, isCase]
    by_cases harrow : tree.type = "->"
    · simp [harrow, ih]
    · have hpast : (tree.type == "->") = false := beq_eq_false_iff_ne.2 harrow
      by_cases helse : tree.type = "else"
      · cases afterArrow <;> cases tree.named <;> simp [helse, ih, isComment]
      · cases tree.named <;> cases isComment tree.type <;> simp [harrow, helse, hpast, ih]

/-- The role of a child of a subject, by whether the parentheses were opened and whether their
content came. -/
def subjectRole (state : Bool × Bool) (tree : ConcreteTree) : Role :=
  if state = (true, false) ∧ isSubject tree then .convert else .drop

theorem scanRoles_subjectRole_of_filled (opened : Bool) (children : List ConcreteTree) :
    scanRoles subjectRole (nextOpening (·.type == "(") isSubject fun _ =>
      false) (opened, true) children =
      children.map fun _ => .drop := by
  induction children generalizing opened with
  | nil => rfl
  | cons tree rest ih => simp [scanRoles, subjectRole, nextOpening, ih]

theorem subjectRoles_eq (opened : Bool) (children : List ConcreteTree) :
    subjectRoles opened children =
      scanRoles subjectRole (nextOpening (·.type == "(") isSubject fun _ =>
        false) (opened, false) children := by
  induction children generalizing opened with
  | nil => rfl
  | cons tree rest ih =>
    rw [subjectRoles, scanRoles, subjectRole, nextOpening]
    by_cases hopening : tree.type = "("
    · simp [hopening, ih, isSubject]
    · have hopens : (tree.type == "(") = false := beq_eq_false_iff_ne.2 hopening
      have hsubject : isSubject tree = isParenthesized tree := by simp [isSubject, hopening]
      rw [hopens, hsubject]
      cases opened <;> cases isParenthesized tree <;> simp [ih, scanRoles_subjectRole_of_filled]

/-- The role of a child of an argument with a name, by whether its `=` came before. -/
def argumentRole (afterEquals : Bool) (_ : ConcreteTree) : Role :=
  if afterEquals then .convert else .drop

theorem scanRoles_argumentRole_of_past (children : List ConcreteTree) :
    scanRoles argumentRole (fun past tree => past || tree.type == "=") true children =
      children.map fun _ => .convert := by
  induction children with
  | nil => rfl
  | cons tree rest ih => simp [scanRoles, argumentRole, ih]

theorem argumentRoles_eq {children : List ConcreteTree} (h : children.any (·.type == "=") = true) :
    argumentRoles children = scanRoles argumentRole (fun past tree =>
      past || tree.type == "=") false children := by
  rw [argumentRoles, if_pos h]
  induction children with
  | nil => cases h
  | cons tree rest ih =>
    by_cases hequals : tree.type = "="
    · simp [hequals, scanRoles, argumentRole, scanRoles_argumentRole_of_past]
    · have hpast : (tree.type == "=") = false := beq_eq_false_iff_ne.2 hequals
      rw [List.any_cons, hpast, Bool.false_or] at h
      have hrest := ih h
      simp only [List.takeWhile_cons, bne, hpast, Bool.not_false, if_true, List.map_cons,
        List.length_cons, List.drop_succ_cons, List.cons_append, scanRoles, argumentRole,
        Bool.false_or] at hrest ⊢
      rw [hrest]
      rfl

theorem getElem?_argumentRoles (before after : List ConcreteTree) (child : ConcreteTree) :
    (argumentRoles (before ++ child :: after))[before.length]? =
      some (if (before.any (·.type == "=") ||
          !(before ++ child :: after).any (·.type == "=")) = true then .convert
        else .drop) := by
  by_cases h : (before ++ child :: after).any (·.type == "=") = true
  · rw [argumentRoles_eq h, getElem?_scanRoles, foldl_or, argumentRole, h]
    simp
  · rw [argumentRoles, if_neg h, Bool.not_eq_true] at *
    simp [h]

theorem getElem?_navigationRoles (before after : List ConcreteTree) (child : ConcreteTree) :
    (navigationRoles (before ++ child :: after))[before.length]? =
      some (if before = [] ∨ after ≠ [] ∨ ¬isIdentifier child then .convert else .drop) := by
  rw [navigationRoles]
  rcases List.eq_nil_or_concat after with rfl | ⟨rest, last, rfl⟩
  · by_cases hbefore : before = []
    · simp [hbefore]
    · have hpos := List.length_pos_iff.2 hbefore
      by_cases hidentifier : isIdentifier child <;> simp [hpos, hidentifier, hbefore]
  · have hlast : (before ++ child :: (rest ++ [last])).dropLast = before ++ child :: rest := by
      rw [← List.cons_append, ← List.append_assoc, List.dropLast_concat]
    rw [List.concat_eq_append, hlast]
    split_ifs <;> simp_all

/-! ### The rules and the roles -/

theorem getElem?_map_append_cons {α β : Type} (f : α → β) (before after : List α) (a : α) :
    ((before ++ a :: after).map f)[before.length]? = some (f a) := by
  simp

/-- A child that is handed on has the role that the rules say. -/
theorem Hands.getElem?_below {given : Role} (h : Hands role label before child after given) :
    (role.below label (before ++ child :: after))[before.length]? = some given := by
  cases h with
  | all hform =>
    have hroles : rolesOf (formOf label) (before ++ child :: after) =
        (before ++ child :: after).map fun _ => .convert := by
      simp only [List.mem_cons, List.not_mem_nil, or_false] at hform
      rcases hform with hform | hform | hform | hform <;> rw [hform, rolesOf]
    simp [Role.below, hroles]
  | inner => simp [Role.below]
  | classBody hform htype =>
    rcases htype with htype | htype <;> simp [Role.below, rolesOf, hform, classRole, htype]
  | functionBody hform htype => simp [Role.below, rolesOf, hform, functionRole, htype]
  | accessor hform haccessor =>
    simp [Role.below, rolesOf, hform, propertyRoles_eq, getElem?_scanRoles, propertyRole, haccessor]
  | initializer hform hawaits hinitial =>
    have haccessor : isAccessor child = false := by
      simpa using (by simpa [isInitial] using hinitial : _ ∧ _).2
    rw [Role.below, hform, rolesOf, propertyRoles_eq, getElem?_scanRoles,
      foldl_nextOpening_iff.2 hawaits]
    simp [propertyRole, haccessor, hinitial]
  | subject hform htype => simp [Role.below, rolesOf, hform, whenRole, htype]
  | parenthesized hawaits hsubject =>
    rw [Role.below, subjectRoles_eq, getElem?_scanRoles, foldl_nextOpening_iff.2 hawaits]
    simp [subjectRole, hsubject]
  | entry hform htype => simp [Role.below, rolesOf, hform, whenRole, htype]
  | case hcase =>
    rw [Role.below, entryRoles_eq, getElem?_scanRoles, foldl_or, entryRole, Bool.false_or,
      if_pos hcase]
  | malformed hform hmalformed hsubject hentry =>
    simp [Role.below, rolesOf, hform, whenRole, hsubject, hentry, hmalformed]
  | loop hform hconstruct hvariable =>
    rw [Role.below, hform, rolesOf, forRoles_eq, getElem?_scanRoles, foldl_or, forRole,
      Bool.false_or, List.any_eq_true.2 hvariable, hconstruct]
    rfl
  | argument hform hequals =>
    rw [Role.below, hform, rolesOf, getElem?_argumentRoles, if_pos]
    simpa only [Bool.or_eq_true, List.any_eq_true, beq_iff_eq, Bool.not_eq_true',
      List.any_eq_false] using hequals
  | receiver hform hreceiver =>
    rw [Role.below, hform, rolesOf, getElem?_navigationRoles, if_pos hreceiver]

/-- A child that a converted node gives a role which may give constructs is handed on. -/
theorem Hands.of_rolesOf {given : Role}
    (h : (rolesOf (formOf label) (before ++ child :: after))[before.length]? = some given)
    (hpasses : given.passes = true) : Hands .convert label before child after given := by
  generalize hform : formOf label = form at h
  cases form with
  | malformed => cases h
  | skipped => cases h
  | identifier => cases h
  | classDecl =>
    rw [rolesOf, getElem?_map_append_cons, Option.some.injEq, classRole] at h
    split at h
    next =>
      subst h
      cases hpasses
    next =>
      subst h
      cases hpasses
    next htype =>
      subst h
      exact .classBody hform (Or.inl htype)
    next htype =>
      subst h
      exact .classBody hform (Or.inr htype)
    next =>
      subst h
      cases hpasses
  | function =>
    rw [rolesOf, getElem?_map_append_cons, Option.some.injEq, functionRole] at h
    split at h
    next =>
      subst h
      cases hpasses
    next htype =>
      subst h
      exact .functionBody hform htype
    next =>
      subst h
      cases hpasses
  | property =>
    rw [rolesOf, propertyRoles_eq, getElem?_scanRoles, propertyRole, Option.some.injEq] at h
    split_ifs at h with haccessor hinitial
    · subst h
      exact .accessor hform haccessor
    · subst h
      exact .initializer hform (foldl_nextOpening_iff.1 hinitial.1) hinitial.2
    · subst h
      cases hpasses
  | when =>
    rw [rolesOf, getElem?_map_append_cons, Option.some.injEq, whenRole] at h
    split_ifs at h with hsubject hentry hmalformed
    · subst h
      exact .subject hform (beq_iff_eq.1 hsubject)
    · subst h
      exact .entry hform (beq_iff_eq.1 hentry)
    · subst h
      exact .malformed hform hmalformed (mt beq_iff_eq.2 hsubject) (mt beq_iff_eq.2 hentry)
    · subst h
      cases hpasses
  | forLoop =>
    rw [rolesOf, forRoles_eq, getElem?_scanRoles, foldl_or, forRole, Option.some.injEq,
      Bool.false_or] at h
    split_ifs at h with hloop
    · subst h
      rw [Bool.and_eq_true, List.any_eq_true] at hloop
      exact .loop hform hloop.1 hloop.2
    · subst h
      cases hpasses
  | argument =>
    rw [rolesOf, getElem?_argumentRoles, Option.some.injEq] at h
    split_ifs at h with hequals
    · subst h
      simp only [Bool.or_eq_true, List.any_eq_true, beq_iff_eq, Bool.not_eq_true',
        List.any_eq_false] at hequals
      exact .argument hform hequals
    · subst h
      cases hpasses
  | navigation =>
    rw [rolesOf, getElem?_navigationRoles, Option.some.injEq] at h
    split_ifs at h with hreceiver
    · subst h
      exact .receiver hform hreceiver
    · subst h
      cases hpasses
  | ifBranch | whileLoop | call | transparent =>
    rw [rolesOf, getElem?_map_append_cons, Option.some.injEq] at h
    subst h
    exact .all (by simp [hform])

/-- A child with a role that may give constructs is handed on. -/
theorem Hands.of_getElem?_below {given : Role}
    (h : (role.below label (before ++ child :: after))[before.length]? = some given)
    (hpasses : given.passes = true) :
    Hands role label before child after given := by
  cases role with
  | drop => cases h
  | classParameters => cases h
  | parameters => cases h
  | error => cases h
  | inner =>
    rw [Role.below, getElem?_map_append_cons] at h
    obtain rfl := Option.some.inj h
    exact .inner
  | subject =>
    rw [Role.below, subjectRoles_eq, getElem?_scanRoles, subjectRole, Option.some.injEq] at h
    split_ifs at h with hsubject
    · subst h
      exact .parenthesized (foldl_nextOpening_iff.1 hsubject.1) hsubject.2
    · subst h
      cases hpasses
  | entry =>
    rw [Role.below, entryRoles_eq, getElem?_scanRoles, foldl_or, entryRole, Option.some.injEq,
      Bool.false_or] at h
    split_ifs at h with hcase
    · subst h
      exact .case hcase
    · subst h
      cases hpasses
  | convert => exact .of_rolesOf h hpasses

/-- **The rules are those of the conversion.** -/
theorem hands_iff {given : Role} (hpasses : given.passes = true) :
    Hands role label before child after given ↔
      (role.below label (before ++ child :: after))[before.length]? = some given :=
  ⟨Hands.getElem?_below, fun h => .of_getElem?_below h hpasses⟩

end Forms

end BranchCover.Conversion
