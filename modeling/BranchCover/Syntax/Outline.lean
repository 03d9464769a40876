import BranchCover.Syntax.Concrete
import BranchCover.Text.Integer
import BranchCover.Text.Lines

/-!
# Outlines of concrete trees

A concrete tree written down with one node a line. A node stands deeper than its parent, and its
line holds its type, where it starts and stops, whether it is a `token`, a `named` node or an
`error`, and perhaps the part it plays for its parent.

* `outlineNode?`: the node of a line.
* `ConcreteTree.forest`: nodes put together by their depths.
* `ConcreteTree.ofOutline`: the trees of an outline.
-/

namespace BranchCover

/-- The node that the words of a line describe. -/
def outlineNode? : List String → Option ConcreteLabel
  | type :: start :: stop :: kind :: field =>
    match Text.natural? start.toList, Text.natural? stop.toList with
    | some start, some stop =>
      some { type, start, stop, named := kind != "token", isError := kind == "error",
             field := field.head? }
    | _, _ => none
  | _ => none

/-- A line of an outline: how deep it stands, and its node. -/
def outlineLine? (line : List Char) : Option (Nat × ConcreteLabel) :=
  (outlineNode? ((Text.words line).map String.ofList)).map fun label =>
    ((line.takeWhile (· == ' ')).length, label)

namespace ConcreteTree

/-- A node takes the trees behind it that stand deeper as its children. -/
def addNode (node : Nat × ConcreteLabel) (later : List (Nat × ConcreteTree)) :
    List (Nat × ConcreteTree) :=
  let children := later.takeWhile fun (depth, _) => node.1 < depth
  (node.1, .node node.2 (children.map (·.2))) :: later.drop children.length

/-- Nodes put together by their depths. -/
def forest (nodes : List (Nat × ConcreteLabel)) : List ConcreteTree :=
  (nodes.foldr addNode []).map (·.2)

/-- The trees of an outline; lines that describe no node are passed over. -/
def ofOutline (text : List Char) : List ConcreteTree :=
  forest ((Text.lines text).filterMap outlineLine?)

end ConcreteTree

end BranchCover
