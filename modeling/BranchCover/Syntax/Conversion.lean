import BranchCover.Syntax.Concrete
import BranchCover.Syntax.Tree
import BranchCover.Text.Blank
import BranchCover.Text.Scan

/-!
# From concrete trees to syntax trees

A node of the concrete tree becomes one construct, or none, or it is transparent and the constructs
inside it stand in its place. What happens to each child is a *role* that its parent gives it from
the types of all its children; the conversion then follows the roles.

* `Role`, `rolesOf`: what happens to the children of a node.
* `classLabel`, `functionLabel` and their siblings: what a construct says of itself.
* `convert`: the constructs of a node.
-/

namespace BranchCover.Conversion

/-! ### Types of nodes -/

/-- The types of comments. -/
def isComment (type : String) : Bool := type == "line_comment" || type == "block_comment"

/-- The types of nodes that hold names, types or metadata only, and no construct. -/
def skippedTypes : List String :=
  ["line_comment", "block_comment", "package_header", "import", "modifiers", "annotation",
   "variable_declaration", "multi_variable_declaration", "lambda_parameters",
   "function_value_parameters", "parameter", "class_parameter", "class_parameters",
   "primary_constructor", "type_parameters", "type_constraints", "type_arguments", "user_type",
   "nullable_type", "non_nullable_type", "parenthesized_type", "function_type",
   "delegation_specifier", "delegation_specifiers", "label"]

/-- The types of classes and objects. -/
def classTypes : List String := ["class_declaration", "object_declaration", "companion_object"]

/-- The tokens of a class that count as modifiers. -/
def classKeywords : List String := ["interface", "enum", "object", "companion", "data", "sealed"]

/-- Whether a node is a name. -/
def isIdentifier (tree : ConcreteTree) : Bool := tree.type == "identifier"

/-- What a node is converted to. -/
inductive Form where
  | malformed
  | skipped
  | classDecl
  | function
  | property
  | ifBranch
  | when
  | forLoop
  | whileLoop
  | call
  | argument
  | navigation
  | identifier
  | transparent
  deriving DecidableEq, Repr

/-- The form of a node. -/
def formOf (label : ConcreteLabel) : Form :=
  if label.isError || label.type == "ERROR" then .malformed
  else if skippedTypes.contains label.type then .skipped
  else if classTypes.contains label.type then .classDecl
  else match label.type with
    | "function_declaration" => .function
    | "property_declaration" => .property
    | "if_expression" => .ifBranch
    | "when_expression" => .when
    | "for_statement" => .forLoop
    | "while_statement" => .whileLoop
    | "do_while_statement" => .whileLoop
    | "call_expression" => .call
    | "value_argument" => .argument
    | "navigation_expression" => .navigation
    | "identifier" => .identifier
    | _ => .transparent

/-! ### Roles of children -/

/-- What happens to a child. -/
inductive Role where
  /-- Nothing comes of it. -/
  | drop
  /-- It is converted. -/
  | convert
  /-- Its children are converted. -/
  | inner
  /-- It gives the parameters of a constructor. -/
  | classParameters
  /-- It gives the parameters of a function. -/
  | parameters
  /-- It is the subject of a `when` in its parentheses. -/
  | subject
  /-- It is an entry of a `when`. -/
  | entry
  /-- It is malformed. -/
  | error
  deriving DecidableEq, Repr

/-- The role of a child of a class. -/
def classRole (tree : ConcreteTree) : Role :=
  match tree.type with
  | "primary_constructor" => .classParameters
  | "class_parameters" => .classParameters
  | "class_body" => .inner
  | "enum_class_body" => .inner
  | _ => .drop

/-- The role of a child of a function. -/
def functionRole (tree : ConcreteTree) : Role :=
  match tree.type with
  | "function_value_parameters" => .parameters
  | "function_body" => .inner
  | _ => .drop

/-- Whether the type of a child of a property is one with a meaning of its own before the
initializer. -/
def isPropertyHead (type : String) : Bool :=
  ["modifiers", "val", "var", "variable_declaration", "multi_variable_declaration"].contains type

/-- The roles of the children of a property: the first construct behind `=` is its initializer,
unless a delegate came before it. -/
def propertyRoles (afterEquals hasInitializer : Bool) : List ConcreteTree → List Role
  | [] => []
  | tree :: rest =>
    if isPropertyHead tree.type then .drop :: propertyRoles afterEquals hasInitializer rest
    else match tree.type with
      | "=" => .drop :: propertyRoles true hasInitializer rest
      | "property_delegate" => .inner :: propertyRoles afterEquals true rest
      | "getter" => .inner :: propertyRoles afterEquals hasInitializer rest
      | "setter" => .inner :: propertyRoles afterEquals hasInitializer rest
      | _ =>
        if afterEquals && tree.named && !hasInitializer then
          .convert :: propertyRoles afterEquals true rest
        else .drop :: propertyRoles afterEquals hasInitializer rest

/-- The role of a child of a `when`. -/
def whenRole (tree : ConcreteTree) : Role :=
  if tree.type == "when_subject" then .subject
  else if tree.type == "when_entry" then .entry
  else if tree.isMalformed then .error
  else .drop

/-- The roles of the children of an entry: constructs are converted, but for comments and the `else`
before the arrow. -/
def entryRoles (afterArrow : Bool) : List ConcreteTree → List Role
  | [] => []
  | tree :: rest =>
    if tree.type == "->" then .drop :: entryRoles true rest
    else if tree.type == "else" && !afterArrow then .drop :: entryRoles afterArrow rest
    else if !tree.named || isComment tree.type then .drop :: entryRoles afterArrow rest
    else .convert :: entryRoles afterArrow rest

/-- Whether a node may be what stands in parentheses. -/
def isParenthesized (tree : ConcreteTree) : Bool :=
  tree.named && !isComment tree.type && tree.type != "annotation"
    && tree.type != "variable_declaration"

/-- The roles of the children of a subject: what stands first in the parentheses is converted. -/
def subjectRoles (afterOpening : Bool) : List ConcreteTree → List Role
  | [] => []
  | tree :: rest =>
    if tree.type == "(" then .drop :: subjectRoles true rest
    else if afterOpening && isParenthesized tree then .convert :: rest.map fun _ => .drop
    else .drop :: subjectRoles afterOpening rest

/-- The roles of the children of a `for`: constructs behind the loop variable are converted. -/
def forRoles (seenVariable : Bool) : List ConcreteTree → List Role
  | [] => []
  | tree :: rest =>
    if !tree.named || isComment tree.type || tree.type == "annotation" then
      .drop :: forRoles seenVariable rest
    else if seenVariable then .convert :: forRoles true rest
    else if tree.type == "variable_declaration" || tree.type == "multi_variable_declaration" then
      .drop :: forRoles true rest
    else .drop :: forRoles false rest

/-- The roles of the children of an argument: a name before `=` is no construct. -/
def argumentRoles (children : List ConcreteTree) : List Role :=
  if children.any (·.type == "=") then
    let label := children.takeWhile (·.type != "=")
    (label.map fun _ => .drop) ++ .drop :: (children.drop (label.length + 1)).map fun _ => .convert
  else children.map fun _ => .convert

/-- The roles of the children of a navigation: the member that is selected is no construct. -/
def navigationRoles (children : List ConcreteTree) : List Role :=
  if 1 < children.length && children.getLast?.any isIdentifier then
    (children.dropLast.map fun _ => .convert) ++ [.drop]
  else children.map fun _ => .convert

/-- The roles of the children of a node of a form. -/
def rolesOf (form : Form) (children : List ConcreteTree) : List Role :=
  match form with
  | .malformed | .skipped | .identifier => []
  | .classDecl => children.map classRole
  | .function => children.map functionRole
  | .property => propertyRoles false false children
  | .when => children.map whenRole
  | .forLoop => forRoles false children
  | .argument => argumentRoles children
  | .navigation => navigationRoles children
  | .ifBranch | .whileLoop | .call | .transparent => children.map fun _ => .convert

/-! ### What constructs say of themselves -/

/-- The modifier words of a node, without annotations. -/
def modifierWords (source : List UInt8) (tree : ConcreteTree) : List String :=
  (tree.children.filter (·.type != "annotation")).flatMap fun child =>
    (Text.words (child.text source).toList).map String.ofList

/-- What was read of a parameter so far. -/
structure ParameterParts where
  name : Option String := none
  typeName : Option String := none
  initializer : Option String := none
  modifiers : List String := []
  isMutable : Bool := false
  isVariadic : Bool := false
  afterColon : Bool := false
  afterEquals : Bool := false

/-- A construct of a parameter behind its colon or its `=`. -/
def ParameterParts.addConstruct (source : List UInt8) (parts : ParameterParts)
    (tree : ConcreteTree) : ParameterParts :=
  if tree.named && parts.afterEquals && parts.initializer.isNone then
    { parts with initializer := some (tree.text source) }
  else if tree.named && parts.afterColon && parts.typeName.isNone then
    { parts with typeName := some (tree.text source) }
  else parts

/-- Reads a child of a parameter of a constructor. -/
def addClassPart (source : List UInt8) (parts : ParameterParts) (tree : ConcreteTree) :
    ParameterParts :=
  if tree.type == "modifiers" then
    { parts with isVariadic := (modifierWords source tree).contains "vararg" }
  else if tree.type == "val" || tree.type == "var" then
    { parts with modifiers := parts.modifiers ++ [tree.type], isMutable := tree.type == "var" }
  else if tree.type == ":" then { parts with afterColon := true }
  else if tree.type == "=" then { parts with afterEquals := true }
  else if isIdentifier tree && parts.name.isNone then
    { parts with name := some (tree.text source) }
  else parts.addConstruct source tree

/-- Reads a child of a parameter of a function. -/
def addPart (source : List UInt8) (parts : ParameterParts) (tree : ConcreteTree) :
    ParameterParts :=
  if tree.type == "parameter_modifiers" || tree.type == "modifiers" then
    { parts with isVariadic := parts.isVariadic || (modifierWords source tree).contains "vararg" }
  else if isIdentifier tree && parts.name.isNone then
    { parts with name := some (tree.text source) }
  else if tree.type == ":" then { parts with afterColon := true }
  else if tree.type == "=" then { parts with afterEquals := true }
  else parts.addConstruct source tree

/-- A parameter as a construct. -/
def ParameterParts.toLabel (parts : ParameterParts) (label : ConcreteLabel) : SyntaxLabel where
  kind := .parameter
  start := label.start
  stop := label.stop
  name := parts.name
  typeName := parts.typeName
  initializer := parts.initializer
  modifiers := parts.modifiers
  isMutable := parts.isMutable
  isVariadic := parts.isVariadic

/-- Whether a construct has a name that is not empty. -/
def hasName (label : SyntaxLabel) : Bool := label.name.getD "" != ""

/-- A parameter of a constructor. -/
def classParameter (source : List UInt8) (tree : ConcreteTree) : SyntaxLabel :=
  (tree.children.foldl (addClassPart source) {}).toLabel tree.label

mutual

/-- The parameters of a constructor that a node holds, also in lists inside it. -/
def classParameters (source : List UInt8) : ConcreteTree → List SyntaxLabel
  | .node _ children => classParametersOf source children

/-- The parameters of a constructor among some nodes. -/
def classParametersOf (source : List UInt8) : List ConcreteTree → List SyntaxLabel
  | [] => []
  | tree :: rest =>
    (if !tree.named then []
     else if tree.type == "class_parameters" then classParameters source tree
     else if tree.type == "class_parameter" then [classParameter source tree].filter hasName
     else []) ++ classParametersOf source rest

end

/-- The parameters of a function read so far, the last first. -/
structure ParameterList where
  read : List SyntaxLabel := []
  pendingVararg : Bool := false
  expectDefault : Bool := false

/-- Reads a child of the parameter list of a function. A default may stand behind its parameter. -/
def ParameterList.add (source : List UInt8) (list : ParameterList) (tree : ConcreteTree) :
    ParameterList :=
  if tree.type == "parameter_modifiers" || tree.type == "modifiers" then
    { list with pendingVararg := (modifierWords source tree).contains "vararg" }
  else if tree.type == "parameter" then
    let parts := tree.children.foldl (addPart source) { isVariadic := list.pendingVararg }
    { list with read := parts.toLabel tree.label :: list.read, pendingVararg := false }
  else if tree.type == "=" then { list with expectDefault := true }
  else if list.expectDefault && tree.named then
    match list.read with
    | [] => { list with expectDefault := false }
    | last :: before =>
      { list with
        read := { last with initializer := some (tree.text source) } :: before
        expectDefault := false }
  else list

/-- The parameters of a function that have a name. -/
def functionParameters (source : List UInt8) (tree : ConcreteTree) : List SyntaxLabel :=
  (tree.children.foldl (ParameterList.add source) {}).read.reverse.filter hasName

/-- The first construct behind an opening parenthesis. -/
def parenthesized? (afterOpening : Bool) : List ConcreteTree → Option ConcreteTree
  | [] => none
  | tree :: rest =>
    if tree.type == "(" then parenthesized? true rest
    else if afterOpening && isParenthesized tree then some tree
    else parenthesized? afterOpening rest

/-- The condition of an `if` or a loop: the child in that part, or what stands in parentheses. -/
def condition? (tree : ConcreteTree) : Option ConcreteTree :=
  tree.childFor? "condition" <|> parenthesized? false tree.children

/-- The name of a class: the child in that part, or the first name. -/
def className? (source : List UInt8) (tree : ConcreteTree) : Option String :=
  ((tree.childFor? "name") <|> tree.children.find? isIdentifier).map (·.text source)

/-- The modifiers of a class: its modifier words and its keywords, in their order. -/
def classModifiers (source : List UInt8) (tree : ConcreteTree) : List String :=
  let words := tree.children.flatMap fun child =>
    if child.type == "modifiers" then modifierWords source child
    else if !child.named && classKeywords.contains child.type then [child.type]
    else []
  if (tree.type == "object_declaration" || tree.type == "companion_object")
      && !words.contains "object" then
    words ++ ["object"]
  else words

/-- What a class says of itself. -/
def classLabel (source : List UInt8) (tree : ConcreteTree) : SyntaxLabel :=
  let name := (className? source tree).getD ""
  let name := if name = "" && tree.type == "companion_object" then "Companion" else name
  { kind := .classDecl
    start := tree.label.start
    stop := tree.label.stop
    name := some (if name = "" then "<anonymous>" else name)
    modifiers := classModifiers source tree }

/-- What was read of a function so far. -/
structure FunctionParts where
  name : Option String := none
  returnType : Option String := none
  body : Option String := none
  modifiers : List String := []
  seenParameters : Bool := false
  expectReturnType : Bool := false

/-- Reads a child of a function. Without a child in the part of the name, the last name before the
parameters counts. -/
def FunctionParts.add (source : List UInt8) (nameGiven : Bool) (parts : FunctionParts)
    (tree : ConcreteTree) : FunctionParts :=
  if tree.type == "modifiers" then
    { parts with modifiers := parts.modifiers ++ modifierWords source tree }
  else if isIdentifier tree && !parts.seenParameters && !nameGiven then
    { parts with name := some (tree.text source) }
  else if tree.type == "function_value_parameters" then { parts with seenParameters := true }
  else if tree.type == ":" && parts.seenParameters then { parts with expectReturnType := true }
  else if tree.type == "function_body" then { parts with body := some (tree.text source) }
  else if parts.expectReturnType && tree.named then
    { parts with returnType := some (tree.text source), expectReturnType := false }
  else parts

/-- What a function says of itself. -/
def functionLabel (source : List UInt8) (tree : ConcreteTree) : SyntaxLabel :=
  let given := (tree.childFor? "name").map (·.text source)
  let parts := tree.children.foldl (FunctionParts.add source given.isSome) { name := given }
  let name := parts.name.getD ""
  { kind := .function
    start := tree.label.start
    stop := tree.label.stop
    name := some (if name = "" then "<anonymous>" else name)
    typeName := parts.returnType
    body := parts.body
    modifiers := parts.modifiers }

/-- What was read of a declared variable so far: its name, its type, and whether the colon is
past. -/
structure VariableParts where
  name : Option String := none
  typeName : Option String := none
  afterColon : Bool := false

/-- Reads a child of a declared variable. -/
def VariableParts.add (source : List UInt8) (parts : VariableParts) (tree : ConcreteTree) :
    VariableParts :=
  if isIdentifier tree && parts.name.isNone then { parts with name := some (tree.text source) }
  else if tree.type == ":" then { parts with afterColon := true }
  else if parts.afterColon && tree.named && parts.typeName.isNone then
    { parts with typeName := some (tree.text source) }
  else parts

/-- The name and the type of a declared variable. -/
def variableParts (source : List UInt8) (tree : ConcreteTree) : VariableParts :=
  tree.children.foldl (VariableParts.add source) {}

/-- What was read of a property so far. -/
structure PropertyParts where
  isMutable : Bool := false
  modifiers : List String := []
  declarations : List ConcreteTree := []
  initializer : Option String := none
  afterEquals : Bool := false

/-- Reads a child of a property. -/
def PropertyParts.add (source : List UInt8) (parts : PropertyParts) (tree : ConcreteTree) :
    PropertyParts :=
  match tree.type with
  | "modifiers" => { parts with modifiers := parts.modifiers ++ modifierWords source tree }
  | "val" => { parts with isMutable := false }
  | "var" => { parts with isMutable := true }
  | "variable_declaration" => { parts with declarations := parts.declarations ++ [tree] }
  | "multi_variable_declaration" =>
    { parts with declarations := parts.declarations ++
        tree.namedChildren.filter (·.type == "variable_declaration") }
  | "=" => { parts with afterEquals := true }
  | "property_delegate" => { parts with initializer := some (tree.text source) }
  | "getter" => parts
  | "setter" => parts
  | _ =>
    if parts.afterEquals && tree.named && parts.initializer.isNone then
      { parts with initializer := some (tree.text source) }
    else parts

/-- What a property says of each variable it declares. -/
def propertyLabels (source : List UInt8) (tree : ConcreteTree) : List SyntaxLabel :=
  let parts := tree.children.foldl (PropertyParts.add source) {}
  (parts.declarations.map fun declaration =>
    let declared := variableParts source declaration
    ({ kind := .property
       start := tree.label.start
       stop := tree.label.stop
       name := declared.name
       typeName := declared.typeName
       initializer := parts.initializer
       modifiers := parts.modifiers
       isMutable := parts.isMutable } : SyntaxLabel)).filter hasName

/-- Where the reading of an `if` stands. -/
inductive IfPart where
  | header
  | thenBody
  | elseBody
  deriving DecidableEq

/-- Reads the children of an `if`: the first construct behind the parentheses and behind `else`. -/
def ifBodies (source : List UInt8) (part : IfPart) (body elseBody : Option String) :
    List ConcreteTree → Option String × Option String
  | [] => (body, elseBody)
  | tree :: rest =>
    if tree.type == ")" && part = .header then ifBodies source .thenBody body elseBody rest
    else if tree.type == "else" then ifBodies source .elseBody body elseBody rest
    else if tree.named && !isComment tree.type then
      match part with
      | .thenBody => ifBodies source part (body <|> some (tree.text source)) elseBody rest
      | .elseBody => ifBodies source part body (elseBody <|> some (tree.text source)) rest
      | .header => ifBodies source part body elseBody rest
    else ifBodies source part body elseBody rest

/-- What an `if` says of itself. -/
def ifLabel (source : List UInt8) (tree : ConcreteTree) : SyntaxLabel :=
  let (body, elseBody) := ifBodies source .header none none tree.children
  { kind := .ifBranch
    start := tree.label.start
    stop := tree.label.stop
    condition := (condition? tree).map (·.text source)
    body, elseBody }

/-- What a `when` says of itself; of several subjects the last counts. -/
def whenLabel (source : List UInt8) (tree : ConcreteTree) : SyntaxLabel where
  kind := .when
  start := tree.label.start
  stop := tree.label.stop
  condition :=
    ((tree.children.filter (·.type == "when_subject")).filterMap
      fun subject => parenthesized? false subject.children).getLast?.map (·.text source)

/-- What was read of an entry so far. -/
structure EntryParts where
  cases : List String := []
  isElse : Bool := false
  afterArrow : Bool := false
  body : Option String := none

/-- Reads a child of an entry: cases stand before the arrow, the body behind it. -/
def EntryParts.add (source : List UInt8) (parts : EntryParts) (tree : ConcreteTree) : EntryParts :=
  if tree.type == "->" then { parts with afterArrow := true }
  else if tree.type == "else" && !parts.afterArrow then { parts with isElse := true }
  else if !tree.named || isComment tree.type then parts
  else if parts.afterArrow then { parts with body := parts.body <|> some (tree.text source) }
  else { parts with cases := parts.cases ++ [tree.text source] }

/-- What an entry of a `when` says of itself. -/
def entryLabel (source : List UInt8) (tree : ConcreteTree) : SyntaxLabel :=
  let parts := tree.children.foldl (EntryParts.add source) {}
  { kind := .whenEntry
    start := tree.label.start
    stop := tree.label.stop
    condition := some (if parts.isElse then "else" else ", ".intercalate parts.cases)
    body := parts.body }

/-- What was read of a `for` so far. -/
structure ForParts where
  name : Option String := none
  typeName : Option String := none
  iterable : Option String := none
  seenVariable : Bool := false

/-- Reads a child of a `for`: the loop variable, of several the first with a name, and then what the
loop ranges over. -/
def ForParts.add (source : List UInt8) (parts : ForParts) (tree : ConcreteTree) : ForParts :=
  if !tree.named || isComment tree.type || tree.type == "annotation" then parts
  else if !parts.seenVariable && tree.type == "variable_declaration" then
    let declared := variableParts source tree
    { parts with seenVariable := true, name := declared.name, typeName := declared.typeName }
  else if !parts.seenVariable && tree.type == "multi_variable_declaration" then
    let names := (tree.namedChildren.filter (·.type == "variable_declaration")).filterMap
      fun child => (variableParts source child).name
    { parts with seenVariable := true, name := names.find? (· != "") }
  else if parts.seenVariable && parts.iterable.isNone then
    { parts with iterable := some (tree.text source) }
  else parts

/-- What a `for` says of itself. -/
def forLabel (source : List UInt8) (tree : ConcreteTree) : SyntaxLabel :=
  let parts := tree.children.foldl (ForParts.add source) {}
  { kind := .forLoop
    start := tree.label.start
    stop := tree.label.stop
    name := parts.name
    typeName := parts.typeName
    condition := parts.iterable }

/-- What a `while` or `do`-`while` says of itself. -/
def whileLabel (source : List UInt8) (tree : ConcreteTree) : SyntaxLabel where
  kind := if tree.type == "do_while_statement" then .doWhileLoop else .whileLoop
  start := tree.label.start
  stop := tree.label.stop
  condition := (condition? tree).map (·.text source)

/-- The name that a call calls: the last name of a navigation, or the text of the callee. -/
def calleeName (source : List UInt8) (tree : ConcreteTree) : String :=
  if tree.type == "navigation_expression" then
    ((tree.children.reverse.find? isIdentifier).getD tree).text source
  else tree.text source

/-- The arguments that a child of a call gives. -/
def callArguments (source : List UInt8) (tree : ConcreteTree) : List String :=
  if tree.type == "value_arguments" then
    (tree.namedChildren.filter (·.type == "value_argument")).map fun argument =>
      trimmed (argument.text source)
  else if tree.type == "annotated_lambda" || tree.type == "lambda_literal" then
    [trimmed (tree.text source)]
  else []

/-- What a call says of itself. -/
def callLabel (source : List UInt8) (tree : ConcreteTree) : SyntaxLabel where
  kind := .call
  start := tree.label.start
  stop := tree.label.stop
  name := tree.children.head?.map (calleeName source)
  arguments := tree.children.flatMap (callArguments source)

/-- What a used name says of itself. -/
def referenceLabel (source : List UInt8) (tree : ConcreteTree) : SyntaxLabel where
  kind := .reference
  start := tree.label.start
  stop := tree.label.stop
  name := some (tree.text source)

/-- What a malformed region says of itself. -/
def errorLabel (label : ConcreteLabel) : SyntaxLabel where
  kind := .error
  start := label.start
  stop := label.stop

/-! ### The conversion -/

/-- The variables that a property declares, the first of which holds the constructs of the
initializer; without any these stand for themselves. -/
def wrapProperty (labels : List SyntaxLabel) (inner : List SyntaxTree) : List SyntaxTree :=
  match labels with
  | [] => inner
  | first :: rest => .node first inner :: rest.map (.node · [])

/-- The constructs that a node of a form becomes, with the constructs inside it. -/
def wrap (source : List UInt8) (form : Form) (tree : ConcreteTree) (inner : List SyntaxTree) :
    List SyntaxTree :=
  match form with
  | .malformed => [.node (errorLabel tree.label) []]
  | .skipped => []
  | .identifier => [.node (referenceLabel source tree) []]
  | .classDecl => [.node (classLabel source tree) inner]
  | .function => [.node (functionLabel source tree) inner]
  | .property => wrapProperty (propertyLabels source tree) inner
  | .ifBranch => [.node (ifLabel source tree) inner]
  | .when => [.node (whenLabel source tree) inner]
  | .forLoop => [.node (forLabel source tree) inner]
  | .whileLoop => [.node (whileLabel source tree) inner]
  | .call => [.node (callLabel source tree) inner]
  | .argument | .navigation | .transparent => inner

/-- Nodes without constructs inside them. -/
def leaves (labels : List SyntaxLabel) : List SyntaxTree := labels.map (.node · [])

mutual

/-- The constructs that a node gives in a role. -/
def treat (source : List UInt8) : Role → ConcreteTree → List SyntaxTree
  | role, .node label children =>
    match role with
    | .drop => []
    | .convert =>
      wrap source (formOf label) (.node label children)
        (treatAll source (rolesOf (formOf label) children) children)
    | .inner => treatAll source (children.map fun _ => .convert) children
    | .classParameters => leaves (classParameters source (.node label children))
    | .parameters => leaves (functionParameters source (.node label children))
    | .subject => treatAll source (subjectRoles false children) children
    | .entry =>
      [.node (entryLabel source (.node label children))
        (treatAll source (entryRoles false children) children)]
    | .error => [.node (errorLabel label) []]
  termination_by structural _ tree => tree

/-- The constructs that some nodes give in their roles, one after another. -/
def treatAll (source : List UInt8) : List Role → List ConcreteTree → List SyntaxTree
  | role :: roles, tree :: rest => treat source role tree ++ treatAll source roles rest
  | _, _ => []
  termination_by structural _ trees => trees

end

/-- The constructs of a node. -/
def convert (source : List UInt8) (tree : ConcreteTree) : List SyntaxTree :=
  treat source .convert tree

/-! ### Files -/

/-- The package that a header names. -/
def packageName (source : List UInt8) (tree : ConcreteTree) : String :=
  match tree.namedChildren.find? fun child =>
    child.type == "qualified_identifier" || isIdentifier child with
  | some child => child.text source
  | none =>
    let text := (tree.text source).toList
    String.ofList (Text.trim ((Text.dropHead? "package".toList text).getD text))

/-- The text before the first ` as `, if there is one. -/
def beforeAlias : List Char → List Char
  | [] => []
  | c :: rest => if Text.startsWith (c :: rest) " as ".toList then [] else c :: beforeAlias rest

/-- The name that an import names, without its alias. -/
def importName (source : List UInt8) (tree : ConcreteTree) : String :=
  let text := Text.trim (tree.text source).toList
  let text := Text.trim ((Text.dropHead? "import".toList text).getD text)
  let text := Text.trim (Text.dropEndWhile (· == ';') text)
  String.ofList (Text.trim (beforeAlias text))

/-- A source file with the syntax of its concrete tree, given as the children of the root. The last
package header counts. -/
def parsedFile (path content : String) (roots : List ConcreteTree) : ParsedFile :=
  let source := Utf8.encode content.toList
  let headers := roots.filter (·.type == "package_header")
  let imports := roots.filter (·.type == "import")
  { path, content
    nodes := (roots.filter fun tree =>
      tree.type != "package_header" && tree.type != "import").flatMap
      (convert source)
    package := (headers.getLast?.map (packageName source)).getD ""
    imports := imports.map (importName source) }

end BranchCover.Conversion
