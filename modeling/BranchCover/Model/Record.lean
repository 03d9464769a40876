import BranchCover.Scope
import BranchCover.Text.Scan

/-!
# Records of source files

What is known about source files, as flat records. Records refer to each other through names, scopes
and branch numbers only. Lines count from one in records that are made from source; a record that is
given may have any numbers.

* `ClassDecl`, `FunctionDecl`, `Variable`: what is declared.
* `Branch`, `Loop`, `Reference`, `FunctionCall`: what is done.
* `LineContext`: what is known about one line.
-/

namespace BranchCover

/-! ### Declarations -/

/-- A source file with its package and imports. -/
structure SourceFile where
  path : String
  package : String := ""
  imports : List String := []
  deriving DecidableEq, Repr

/-- A parameter of a function or a constructor. -/
structure Parameter where
  name : String
  typeName : String
  default : Option String := none
  isVariadic : Bool := false
  deriving DecidableEq, Repr

/-- A property of a class. -/
structure Property where
  name : String
  typeName : Option String
  isMutable : Bool := false
  initializer : Option String := none
  deriving DecidableEq, Repr

/-- A class, interface, enumeration or object. -/
structure ClassDecl where
  name : String
  qualifiedName : String
  file : String
  line : Int
  endLine : Int
  scope : String
  package : String := ""
  properties : List Property := []
  constructorParameters : List Parameter := []
  isObject : Bool := false
  isAbstract : Bool := false
  isEnum : Bool := false
  deriving DecidableEq, Repr

/-- The name of a class relative to its package. -/
def ClassDecl.localName (decl : ClassDecl) : String :=
  if decl.package = "" then decl.qualifiedName
  else match Text.dropHead? (decl.package.toList ++ ['.']) decl.qualifiedName.toList with
    | some name => String.ofList name
    | none => decl.qualifiedName

/-- A function or a method. -/
structure FunctionDecl where
  name : String
  qualifiedName : String
  file : String
  line : Int
  endLine : Int
  scope : String
  returnType : String := "Unit"
  parameters : List Parameter := []
  containingClass : Option String := none
  package : String := ""
  isPrivate : Bool := false
  body : Option String := none
  deriving DecidableEq, Repr

/-- A variable, property or parameter, declared in a scope. -/
structure Variable where
  name : String
  typeName : Option String
  line : Int
  file : String
  scope : String
  initializer : Option String := none
  isParameter : Bool := false
  deriving DecidableEq, Repr

/-! ### Control flow, references and calls -/

/-- The kinds of branches. -/
inductive BranchKind where
  | ifBranch
  | when
  | whenEntry
  deriving DecidableEq, Repr

/-- An `if`, a `when`, or one entry of a `when`. The condition of a `when` is its subject, if it has
one; that of an entry is its cases with commas between them, or `else`. -/
structure Branch where
  id : Int
  kind : BranchKind
  condition : Option String
  function : Option String
  file : String
  line : Int
  scope : String
  parentId : Option Int := none
  body : Option String := none
  elseBody : Option String := none
  deriving DecidableEq, Repr

/-- Whether a branch is the `else` entry of a `when`. -/
def Branch.isCatchAll (branch : Branch) : Bool :=
  branch.kind == .whenEntry && branch.condition == some "else"

/-- The kinds of loops. -/
inductive LoopKind where
  | forEach
  | whileDo
  | doWhile
  deriving DecidableEq, Repr

/-- A loop. A `for` has a variable and what it ranges over; the others have a condition. -/
structure Loop where
  kind : LoopKind
  file : String
  line : Int
  scope : String
  loopVariable : Option String := none
  iterable : Option String := none
  condition : Option String := none
  deriving DecidableEq, Repr

/-- A name used in an expression. -/
structure Reference where
  name : String
  file : String
  line : Int
  scope : String
  deriving DecidableEq, Repr

/-- A call with the texts of its arguments. -/
structure FunctionCall where
  name : String
  file : String
  line : Int
  scope : String
  caller : Option String := none
  callerQualifiedName : Option String := none
  arguments : List String := []
  deriving DecidableEq, Repr

/-! ### Lines -/

/-- What is known about one line of a file. -/
structure LineContext where
  file : String
  line : Int
  code : String
  scope : String := Scope.global
  variableDecls : List Variable := []
  references : List Reference := []
  calls : List FunctionCall := []
  controlFlow : Option String := none
  currentClass : Option String := none
  currentFunction : Option String := none
  deriving DecidableEq, Repr

/-- The line of a file that a context is about. -/
def LineContext.place (context : LineContext) : String × Int := (context.file, context.line)

end BranchCover
