import BranchCover.Place
import BranchCover.Text.Utf8

/-!
# Concrete trees

The tree that a grammar of Kotlin gives for a source: every token and every construct, with its type
and the bytes it spans. Positions may lie anywhere; a span that is cut off or reversed has the text
that is left of it, and a negative position counts from the end of the source.
-/

namespace BranchCover

/-- What a node of a concrete tree says of itself. -/
structure ConcreteLabel where
  type : String
  start : Int
  stop : Int
  /-- Whether the node is a construct of the grammar rather than a token. -/
  named : Bool := true
  /-- Whether the grammar could not make sense of the node. -/
  isError : Bool := false
  /-- The part that the node plays for its parent. -/
  field : Option String := none
  deriving DecidableEq, Repr, Inhabited

/-- A node with its children, in the order of the source. -/
inductive ConcreteTree where
  | node (label : ConcreteLabel) (children : List ConcreteTree)
  deriving Repr, Inhabited

namespace ConcreteTree

/-- What a node says of itself. -/
def label : ConcreteTree → ConcreteLabel
  | node label _ => label

/-- The children of a node. -/
def children : ConcreteTree → List ConcreteTree
  | node _ children => children

/-- The type of a node. -/
def type (tree : ConcreteTree) : String := tree.label.type

/-- Whether a node is a construct of the grammar. -/
def named (tree : ConcreteTree) : Bool := tree.label.named

/-- Whether a node is a region that the grammar could not make sense of. -/
def isMalformed (tree : ConcreteTree) : Bool := tree.label.isError || tree.type == "ERROR"

/-- The children of a node that are constructs of the grammar. -/
def namedChildren (tree : ConcreteTree) : List ConcreteTree := tree.children.filter (·.named)

/-- The first child that plays a part. -/
def childFor? (tree : ConcreteTree) (field : String) : Option ConcreteTree :=
  tree.children.find? (·.label.field == some field)

end ConcreteTree

/-- The text of a node in its source. -/
def ConcreteTree.text (source : List UInt8) (tree : ConcreteTree) : String :=
  String.ofList (Utf8.decodeLossy (Place.slice source tree.label.start tree.label.stop))

end BranchCover
