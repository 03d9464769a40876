import BranchCover.Model.Basic
import BranchCover.Syntax.Tree
import BranchCover.Text.Lines
import BranchCover.Text.Utf8
import BranchCover.Warning

/-!
# The model of a file

The syntax of a file is walked once, and each construct gives *findings* in the order of the walk:
records, warnings, and what they say about lines. The model collects the records and writes what the
findings say into the contexts of the lines.

* `Finding`: what a construct gives.
* `findings`: the findings of a tree.
* `Model.build`: the model of a file, and the warnings.
-/

namespace BranchCover

/-- What a construct says about a file. -/
inductive Finding where
  | warning (warning : Warning)
  /-- From here on the lines of a class are in its scope. -/
  | classLines (first last : Int) (scope qualifiedName : String)
  | classDecl (decl : ClassDecl)
  /-- A function, and the class around it. -/
  | function (decl : FunctionDecl) (className : Option String)
  | variableDecl (decl : Variable)
  /-- A branch, and its header as it is shown on its line. -/
  | branch (branch : Branch) (header : Option String)
  /-- A loop, and its header as it is shown on its line. -/
  | loop (loop : Loop) (header : String)
  | call (call : FunctionCall)
  | reference (reference : Reference)

namespace Build

/-! ### Places -/

/-- What is fixed for a file. -/
structure FileInfo where
  path : String
  package : String
  /-- The line of a byte position. -/
  lineOf : Int → Int

/-- The place of a construct: its scope, the classes around it, and the function around it. -/
structure Position where
  scope : String := Scope.global
  classChain : List String := []
  className : Option String := none
  function : Option FunctionDecl := none

/-- The positions of the line feeds among bytes that start at a position. -/
def newlineOffsets (position : Nat) : List UInt8 → List Nat
  | [] => []
  | b :: rest =>
    if b = 10 then position :: newlineOffsets (position + 1) rest
    else newlineOffsets (position + 1) rest

/-- The line of a byte position: one more than there are line feeds before it. -/
def lineAt (offsets : List Nat) (position : Int) : Int :=
  (offsets.takeWhile fun (offset : Nat) => offset < position).length + 1

/-- The first and the last line of a construct. -/
def lineSpan (file : FileInfo) (label : SyntaxLabel) : Int × Int :=
  (file.lineOf label.start, file.lineOf (max (label.stop - 1) label.start))

/-! ### Records of constructs -/

/-- The condition of a construct, trimmed, and empty where there is none. -/
def conditionText (label : SyntaxLabel) : String := trimmed (label.condition.getD "")

/-- The subject of a `when`, unless it is missing or empty. -/
def subject? (label : SyntaxLabel) : Option String :=
  match label.condition with
  | some "" => none
  | condition => condition.map trimmed

/-- The parameter that a construct declares. -/
def parameterOf (label : SyntaxLabel) : Parameter where
  name := if label.name.getD "" = "" then "_" else label.name.getD ""
  typeName := trimmed (if label.typeName.getD "" = "" then "Any" else label.typeName.getD "")
  default := label.initializer
  isVariadic := label.isVariadic

/-- The variable that a parameter is, on a line of a scope. -/
def variableOf (parameter : Parameter) (line : Int) (file scope : String) : Variable where
  name := parameter.name
  typeName := some parameter.typeName
  line
  file
  scope
  initializer := parameter.default
  isParameter := true

/-- The properties that a construct inside a class declares: one marked `val` or `var` in the
constructor, or a property of the body. -/
def propertiesOf (label : SyntaxLabel) : List Property :=
  if label.kind = .parameter then
    if label.modifiers.any fun word => word == "val" || word == "var" then
      let parameter := parameterOf label
      [{ name := parameter.name, typeName := some parameter.typeName,
         isMutable := label.modifiers.contains "var", initializer := some parameter.name }]
    else []
  else if label.kind = .property ∧ label.name.getD "" ≠ "" then
    [{ name := label.name.getD "", typeName := label.typeName, isMutable := label.isMutable,
       initializer := label.initializer }]
  else []

/-- The name of a declaration. -/
def declaredName (label : SyntaxLabel) : String :=
  if label.name.getD "" = "" then "<anonymous>" else label.name.getD ""

/-- The name of a class with its package and the classes around it. -/
def qualify (file : FileInfo) (chain : List String) : String :=
  ".".intercalate ((file.package :: chain).filter (· != ""))

/-- The position inside a class. -/
def inClass (file : FileInfo) (position : Position) (label : SyntaxLabel) : Position :=
  let chain := position.classChain ++ [declaredName label]
  let qualifiedName := qualify file chain
  { scope := Scope.ofClass qualifiedName, classChain := chain, className := some qualifiedName }

/-- The record of a class. -/
def classOf (file : FileInfo) (position : Position) (label : SyntaxLabel)
    (members : List SyntaxLabel) : ClassDecl :=
  let inside := inClass file position label
  let (first, last) := lineSpan file label
  { name := declaredName label
    qualifiedName := inside.className.getD ""
    file := file.path
    line := first
    endLine := last
    scope := inside.scope
    package := file.package
    properties := members.flatMap propertiesOf
    constructorParameters := (members.filter (·.kind = .parameter)).map parameterOf
    isObject := label.modifiers.contains "object"
    isAbstract := ["abstract", "interface", "sealed"].any label.modifiers.contains
    isEnum := label.modifiers.contains "enum" }

/-- The record of a function: a method directly inside a class, or else a function, whose path is
behind that of the function around it. -/
def functionOf (file : FileInfo) (position : Position) (label : SyntaxLabel)
    (members : List SyntaxLabel) : FunctionDecl :=
  let name := declaredName label
  let (first, last) := lineSpan file label
  let (scope, containingClass) :=
    match position.function, position.className with
    | some outer, _ => (Scope.ofFunction (Scope.path outer.scope ++ "." ++ name), none)
    | none, some className => (Scope.ofMethod className name, some className)
    | none, none => (Scope.ofFunction name, none)
  { name
    qualifiedName :=
      match containingClass with
      | some className => if className = "" then name else className ++ "." ++ name
      | none => name
    file := file.path
    line := first
    endLine := last
    scope
    returnType := trimmed (if label.typeName.getD "" = "" then "Unit" else label.typeName.getD "")
    parameters := (members.filter (·.kind = .parameter)).map parameterOf
    containingClass
    package := file.package
    isPrivate := label.modifiers.contains "private"
    body := label.body }

/-- The position inside a function. -/
def inFunction (position : Position) (function : FunctionDecl) : Position :=
  { position with scope := function.scope, function := some function }

/-- The record of an `if`. -/
def ifOf (file : FileInfo) (position : Position) (id : Nat) (label : SyntaxLabel) : Branch where
  id
  kind := .ifBranch
  condition := some (conditionText label)
  function := position.function.map (·.name)
  file := file.path
  line := file.lineOf label.start
  scope := position.scope
  body := label.body
  elseBody := label.elseBody

/-- The record of a `when`. -/
def whenOf (file : FileInfo) (position : Position) (id : Nat) (label : SyntaxLabel) : Branch where
  id
  kind := .when
  condition := subject? label
  function := position.function.map (·.name)
  file := file.path
  line := file.lineOf label.start
  scope := position.scope

/-- The record of an entry of a `when`. -/
def entryOf (file : FileInfo) (position : Position) (id parent : Nat) (label : SyntaxLabel) :
    Branch where
  id
  kind := .whenEntry
  condition := some (conditionText label)
  function := position.function.map (·.name)
  file := file.path
  line := file.lineOf label.start
  scope := position.scope
  parentId := some parent
  body := label.body

/-- The header of a `when`. -/
def whenHeader (label : SyntaxLabel) : String :=
  match subject? label with
  | some "" | none => "when"
  | some subject => "when (" ++ subject ++ ")"

/-- The record of a loop and its header. -/
def loopOf (file : FileInfo) (position : Position) (kind : LoopKind) (label : SyntaxLabel) :
    Loop × String :=
  let condition := conditionText label
  let line := file.lineOf label.start
  match kind with
  | .forEach =>
    ({ kind, file := file.path, line, scope := position.scope, loopVariable := label.name,
       iterable := some condition },
     "for (" ++ label.name.getD "None" ++ " in " ++ condition ++ ")")
  | .whileDo =>
    ({ kind, file := file.path, line, scope := position.scope, condition := some condition },
     "while (" ++ condition ++ ")")
  | .doWhile =>
    ({ kind, file := file.path, line, scope := position.scope, condition := some condition },
     "do-while (" ++ condition ++ ")")

/-! ### The findings of a tree -/

/-- What a construct gives itself, apart from the constructs inside it. `next` is the number of the
next branch, and `parent` that of the `when` that the construct stands directly in. -/
def ownFindings (file : FileInfo) (position : Position) (next : Nat) (parent : Option Nat)
    (label : SyntaxLabel) : List Finding :=
  let line := file.lineOf label.start
  match label.kind with
  | .error =>
    [.warning { kind := .parseError, message := "Skipped malformed syntax", file := some file.path,
                line := some line }]
  | .property =>
    if label.name.getD "" = "" then []
    else
      [.variableDecl
        { name := label.name.getD "", typeName := label.typeName, line, file := file.path,
          scope := position.scope, initializer := label.initializer }]
  | .ifBranch =>
    [.branch (ifOf file position next label) (some ("if (" ++ conditionText label ++ ")"))]
  | .when => [.branch (whenOf file position next label) (some (whenHeader label))]
  | .whenEntry =>
    match parent with
    | some parent => [.branch (entryOf file position next parent label) none]
    | none =>
      [.warning { kind := .analysisInconsistency,
                  message := "When entry without an enclosing when; entry dropped",
                  file := some file.path, line := some line }]
  | .forLoop =>
    let (loop, header) := loopOf file position .forEach label
    [.loop loop header]
  | .whileLoop =>
    let (loop, header) := loopOf file position .whileDo label
    [.loop loop header]
  | .doWhileLoop =>
    let (loop, header) := loopOf file position .doWhile label
    [.loop loop header]
  | .call =>
    [.call { name := label.name.getD "", file := file.path, line, scope := position.scope,
             caller := position.function.map (·.name),
             callerQualifiedName := position.function.map (·.qualifiedName),
             arguments := label.arguments }]
  | .reference =>
    if label.name.getD "" = "" then []
    else
      [.reference { name := label.name.getD "", file := file.path, line, scope := position.scope }]
  | .classDecl | .function | .parameter => []

/-- Whether a finding takes a branch number. -/
def isBranch : Finding → Bool
  | .branch _ _ => true
  | _ => false

/-- The number of the next branch behind some findings. -/
def nextAfter (next : Nat) (findings : List Finding) : Nat := next + findings.countP isBranch

/-- How the parameters among the constructs inside a construct are treated. -/
inductive ParameterUse where
  /-- They are constructs like others. -/
  | visit
  /-- They are left out. -/
  | skip
  /-- They are variables of the scope. -/
  | declare
  deriving DecidableEq

mutual

/-- The findings of a tree at a position; see `ownFindings` for `next` and `parent`. -/
def findings (file : FileInfo) (position : Position) (next : Nat) (parent : Option Nat) :
    SyntaxTree → List Finding
  | .node label children =>
    match label.kind with
    | .error => ownFindings file position next parent label
    | .classDecl =>
      let inside := inClass file position label
      let decl := classOf file position label (children.map (·.label))
      .classLines decl.line decl.endLine decl.scope decl.qualifiedName ::
        findingsAll file inside next none .declare children ++ [.classDecl decl]
    | .function =>
      let decl := functionOf file position label (children.map (·.label))
      .function decl position.className ::
        findingsAll file (inFunction position decl) next none .skip children
    | .when =>
      ownFindings file position next parent label ++
        findingsAll file position (next + 1) (some next) .visit children
    | _ =>
      let own := ownFindings file position next parent label
      own ++ findingsAll file position (nextAfter next own) none .visit children
  termination_by structural tree => tree

/-- The findings of several trees, one tree after another. -/
def findingsAll (file : FileInfo) (position : Position) (next : Nat) (parent : Option Nat)
    (parameters : ParameterUse) : List SyntaxTree → List Finding
  | [] => []
  | tree :: rest =>
    let found :=
      if tree.label.kind = .parameter ∧ parameters = .skip then []
      else if tree.label.kind = .parameter ∧ parameters = .declare then
        [.variableDecl (variableOf (parameterOf tree.label) (file.lineOf tree.label.start) file.path
          position.scope)]
      else findings file position next parent tree
    found ++ findingsAll file position (nextAfter next found) parent parameters rest
  termination_by structural trees => trees

end

/-! ### The model -/

/-- Changes the contexts of the lines from a first to a last. -/
def onLines (first last : Int) (change : LineContext → LineContext) (table : LineTable) :
    LineTable :=
  table.map fun entry =>
    (entry.1, if first ≤ entry.1.2 ∧ entry.1.2 ≤ last then change entry.2 else entry.2)

/-- Changes the context of one line. -/
def onLine (line : Int) (change : LineContext → LineContext) (table : LineTable) : LineTable :=
  onLines line line change table

/-- Adds a header to the control flow of a line. -/
def addHeader (header : String) (context : LineContext) : LineContext :=
  { context with
    controlFlow :=
      match context.controlFlow with
      | some "" | none => some header
      | some headers => some (headers ++ "; " ++ header) }

/-- Writes what a finding says about lines into their contexts. -/
def note (table : LineTable) : Finding → LineTable
  | .warning _ => table
  | .classDecl _ => table
  | .classLines first last scope qualifiedName =>
    onLines first last
      (fun context => { context with scope, currentClass := some qualifiedName }) table
  | .function decl className =>
    let parameters := decl.parameters.map (variableOf · decl.line decl.file decl.scope)
    onLine decl.line (fun context =>
      { context with variableDecls := context.variableDecls ++ parameters })
      (onLines decl.line decl.endLine
        (fun context =>
          { context with
            scope := decl.scope, currentFunction := some decl.name, currentClass := className })
        table)
  | .variableDecl decl =>
    onLine decl.line
      (fun context => { context with variableDecls := context.variableDecls ++ [decl] }) table
  | .branch branch header =>
    match header with
    | some header => onLine branch.line (addHeader header) table
    | none => table
  | .loop loop header => onLine loop.line (addHeader header) table
  | .call call =>
    onLine call.line (fun context => { context with calls := context.calls ++ [call] }) table
  | .reference reference =>
    onLine reference.line
      (fun context => { context with references := context.references ++ [reference] }) table

/-- The contexts of the lines of a text, with nothing said about them. -/
def emptyTable (path : String) (content : List Char) : LineTable :=
  (Text.lines content).mapIdx fun i code =>
    ((path, i + 1), { file := path, line := i + 1, code := String.ofList (Text.trim code) })

/-- What is fixed for a parsed file. -/
def infoOf (file : ParsedFile) : FileInfo :=
  let offsets := newlineOffsets 0 (Utf8.encode file.content.toList)
  { path := file.path, package := file.package, lineOf := lineAt offsets }

end Build

/-- The model of a file with the warnings met while it was built. -/
structure BuildResult where
  model : Model := {}
  warnings : List Warning := []
  deriving DecidableEq, Repr

/-- The model that findings about a file give. -/
def Model.ofFindings (file : ParsedFile) (found : List Finding) : BuildResult where
  model :=
    { files := [{ path := file.path, package := file.package, imports := file.imports }]
      classes := found.filterMap fun | .classDecl decl => some decl | _ => none
      functions := found.filterMap fun | .function decl _ => some decl | _ => none
      variableDecls := found.filterMap fun | .variableDecl decl => some decl | _ => none
      branches := found.filterMap fun | .branch branch _ => some branch | _ => none
      loops := found.filterMap fun | .loop loop _ => some loop | _ => none
      references := found.filterMap fun | .reference reference => some reference | _ => none
      calls := found.filterMap fun | .call call => some call | _ => none
      lineContexts := found.foldl Build.note (Build.emptyTable file.path file.content.toList) }
  warnings := found.filterMap fun | .warning warning => some warning | _ => none

/-- The model of a parsed file. -/
def Model.build (file : ParsedFile) : BuildResult :=
  Model.ofFindings file (Build.findingsAll (Build.infoOf file) {} 0 none .visit file.nodes)

/-- The models of several parsed files as one, and their warnings in the order of the files. -/
def BuildResult.merge (results : List BuildResult) : BuildResult where
  model := Model.merge (results.map (·.model))
  warnings := results.flatMap (·.warnings)

end BranchCover
