/-!
# Syntax trees

The constructs of a source that matter for its model, without the details of a grammar.
-/

namespace BranchCover

/-- The kinds of constructs. -/
inductive NodeKind where
  | classDecl
  | function
  | parameter
  | property
  | ifBranch
  | when
  | whenEntry
  | forLoop
  | whileLoop
  | doWhileLoop
  | call
  | reference
  /-- A region that the grammar could not make sense of. -/
  | error
  deriving DecidableEq, Repr, Inhabited

/-- What a node says of itself. Which of the texts are there depends on its kind: a function has its
return type as type and its source as body, an `if` has a condition and two bodies, a `when` entry
its cases as condition, a loop what it ranges over, a call its arguments. -/
structure SyntaxLabel where
  kind : NodeKind
  start : Int
  stop : Int
  name : Option String := none
  typeName : Option String := none
  condition : Option String := none
  initializer : Option String := none
  body : Option String := none
  elseBody : Option String := none
  modifiers : List String := []
  isMutable : Bool := false
  isVariadic : Bool := false
  arguments : List String := []
  deriving DecidableEq, Repr, Inhabited

/-- A construct with the constructs inside it. -/
inductive SyntaxTree where
  | node (label : SyntaxLabel) (children : List SyntaxTree)
  deriving Repr, Inhabited

namespace SyntaxTree

/-- What a node says of itself. -/
def label : SyntaxTree → SyntaxLabel
  | node label _ => label

/-- The constructs inside a node. -/
def children : SyntaxTree → List SyntaxTree
  | node _ children => children

mutual

/-- A node and all nodes inside it, each before those inside it. -/
def walk : SyntaxTree → List SyntaxLabel
  | node label children => label :: walkAll children

/-- The nodes of several trees, one tree after another. -/
def walkAll : List SyntaxTree → List SyntaxLabel
  | [] => []
  | tree :: rest => walk tree ++ walkAll rest

end

end SyntaxTree

/-- A source file with its syntax. -/
structure ParsedFile where
  path : String
  content : String
  nodes : List SyntaxTree := []
  package : String := ""
  imports : List String := []

end BranchCover
