import BranchCover.CallGraph

/-!
# Definitions and uses

The records of the data-flow analysis: where a variable gets a value, where it is read, which
definition reaches which use, and what looks wrong.

* `DataFlow.Result`: all of it, with the call graph.
-/

namespace BranchCover

/-- How a variable gets a value. -/
inductive DefinitionKind where
  | declaration
  | parameter
  | loopVariable
  deriving DecidableEq, Repr

/-- A place where a variable gets a value. -/
structure Definition where
  name : String
  file : String
  line : Int
  scope : String
  kind : DefinitionKind
  /-- The place of the variable in the model, if it is one of its variables. -/
  variableIndex : Option Nat := none
  deriving DecidableEq, Repr

/-- What a value is read for. -/
inductive UseKind where
  | computation
  | condition
  | returned
  | functionArg
  | arrayIndex
  deriving DecidableEq, Repr

/-- A place where a variable is read. -/
structure Use where
  name : String
  file : String
  line : Int
  scope : String
  kind : UseKind
  deriving DecidableEq, Repr

/-- A use and the definition that reaches it. -/
structure DefUsePair where
  definition : Definition
  use : Use
  deriving DecidableEq, Repr

/-- The variable of a pair. -/
def DefUsePair.name (pair : DefUsePair) : String := pair.use.name

/-- What looks wrong about a variable. -/
inductive AnomalyKind where
  | undefinedUse
  | unusedDefinition
  | redundantDefinition
  | uninitializedUse
  deriving DecidableEq, Repr

/-- The name of a kind of anomaly. -/
def AnomalyKind.text : AnomalyKind → String
  | undefinedUse => "undefined_use"
  | unusedDefinition => "unused_definition"
  | redundantDefinition => "redundant_definition"
  | uninitializedUse => "uninitialized_use"

/-- Something that looks wrong, with its place. -/
structure Anomaly where
  kind : AnomalyKind
  name : String
  file : String
  line : Int
  description : String
  deriving DecidableEq, Repr

/-- What the analysis of a model gives. -/
structure DataFlow.Result where
  definitions : List Definition := []
  uses : List Use := []
  pairs : List DefUsePair := []
  anomalies : List Anomaly := []
  callGraph : CallGraph := []
  deriving DecidableEq, Repr

end BranchCover
