import BranchCover.Model.Record
import BranchCover.Text.Sorted

/-!
# The call graph

Who calls whom, by name: an edge from a caller to each name it calls, with the number of calls and
the line of the first.

* `CallGraph.addCall`: the graph with one more call.
* `CallGraph.ofCalls`: the graph of a list of calls.
* `CallGraph.entryPoints`: the callers that nothing calls by name.
-/

namespace BranchCover

/-- The calls of one name by one caller. -/
structure CallEdge where
  caller : String
  callee : String
  count : Nat
  /-- The line of the first call. -/
  line : Option Int
  deriving DecidableEq, Repr

/-- The edges of a graph, no two between the same names. -/
abbrev CallGraph := List CallEdge

namespace CallGraph

/-- The graph with one more call. -/
def addCall (graph : CallGraph) (caller callee : String) (line : Option Int) : CallGraph :=
  match graph with
  | [] => [{ caller, callee, count := 1, line }]
  | edge :: rest =>
    if edge.caller = caller ∧ edge.callee = callee then
      { edge with count := edge.count + 1 } :: rest
    else edge :: addCall rest caller callee line

/-- The names that a caller calls, sorted. -/
def callees (graph : CallGraph) (caller : String) : List String :=
  Text.sortedSet ((graph.filter (·.caller == caller)).map (·.callee))

/-- The callers of a name, sorted. -/
def callersOf (graph : CallGraph) (callee : String) : List String :=
  Text.sortedSet ((graph.filter (·.callee == callee)).map (·.caller))

/-- All callers, sorted. -/
def callers (graph : CallGraph) : List String := Text.sortedSet (graph.map (·.caller))

/-- Whether a name is a caller. -/
def isCaller (graph : CallGraph) (name : String) : Bool := graph.any (·.caller == name)

/-- The callers with the names they call. -/
def mapping (graph : CallGraph) : List (String × List String) :=
  graph.callers.map fun caller => (caller, graph.callees caller)

/-- What stands behind the last point of a name. -/
def lastSegment (name : String) : String := String.ofList (Text.afterLast '.' name.toList)

/-- The callers that no call names, by their last segments, sorted. -/
def entryPoints (graph : CallGraph) : List String :=
  let called := graph.map fun edge => lastSegment edge.callee
  graph.callers.filter fun caller => !called.contains (lastSegment caller)

/-- Whether an edge comes before another: by caller, then by callee. -/
def edgeBefore (a b : CallEdge) : Bool :=
  a.caller < b.caller || (a.caller == b.caller && a.callee < b.callee)

/-- Puts an edge into its place among sorted edges. -/
def insertEdge (edge : CallEdge) : List CallEdge → List CallEdge
  | [] => [edge]
  | first :: rest => if edgeBefore edge first then edge :: first :: rest
      else first :: insertEdge edge rest

/-- The edges, sorted by caller and callee. -/
def sortedEdges (graph : CallGraph) : List CallEdge := graph.foldr insertEdge []

/-- The caller of a call by its qualified name, if both the caller and the callee are known. -/
def callerOf? (call : FunctionCall) : Option String :=
  if call.caller.getD "" = "" ∨ call.name = "" then none
  else
    let qualified := call.callerQualifiedName.getD ""
    some (if qualified = "" then call.caller.getD "" else qualified)

/-- The graph with one more call, if its caller is known. -/
def add (graph : CallGraph) (call : FunctionCall) : CallGraph :=
  match callerOf? call with
  | some caller => graph.addCall caller call.name (some call.line)
  | none => graph

/-- The graph of a list of calls. -/
def ofCalls (calls : List FunctionCall) : CallGraph := calls.foldl add []

end CallGraph

end BranchCover
