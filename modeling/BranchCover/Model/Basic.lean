import BranchCover.DataFlow.Basic

/-!
# The program model

What is known about a set of source files, as flat lists of records, with what the analysis of the
data flow has found in them once it has been made.

* `Model`: all records of one or more files.
* `Model.lineContext?`, `Model.branchesFor`, `Model.entriesFor`, …: the questions asked of a model.
* `LineTable`: the line contexts by their lines, in the order in which the lines first appeared.
-/

namespace BranchCover

/-! ### Lines -/

/-- A line of a file with its context. -/
abbrev LineEntry := (String × Int) × LineContext

/-- The line contexts of a model by their lines, no two for the same line. -/
abbrev LineTable := List LineEntry

namespace LineTable

/-- The context of a line. -/
def get? (table : LineTable) (file : String) (line : Int) : Option LineContext :=
  table.lookup (file, line)

/-- Puts a context where its line stands in the table, or at the end. -/
def insert (table : LineTable) (entry : LineEntry) : LineTable :=
  match table with
  | [] => [entry]
  | first :: rest => if first.1 = entry.1 then entry :: rest else first :: insert rest entry

/-- Puts all contexts of a second table into a first. -/
def update (table added : LineTable) : LineTable := added.foldl insert table

end LineTable

/-! ### Models -/

/-- All records of one or more source files. -/
structure Model where
  files : List SourceFile := []
  classes : List ClassDecl := []
  functions : List FunctionDecl := []
  variableDecls : List Variable := []
  branches : List Branch := []
  loops : List Loop := []
  references : List Reference := []
  calls : List FunctionCall := []
  lineContexts : LineTable := []
  /-- What the analysis of the data flow found, if it has been made. -/
  dataflow : Option DataFlow.Result := none
  deriving DecidableEq, Repr

namespace Model

/-- The context of a line of a file. -/
def lineContext? (model : Model) (file : String) (line : Int) : Option LineContext :=
  model.lineContexts.get? file line

/-- The first branch with a number. -/
def branch? (model : Model) (id : Int) : Option Branch :=
  model.branches.find? (·.id == id)

/-- The `if` and `when` branches in the scope of a function. -/
def branchesFor (model : Model) (function : FunctionDecl) : List Branch :=
  model.branches.filter fun branch =>
    branch.scope == function.scope && branch.file == function.file && branch.kind != .whenEntry

/-- The entries of a `when`, in the order in which they are written. -/
def entriesFor (model : Model) (parent : Branch) : List Branch :=
  model.branches.filter fun branch => branch.kind == .whenEntry && branch.parentId == some parent.id

/-- The first class with a qualified name. -/
def classNamed? (model : Model) (qualifiedName : String) : Option ClassDecl :=
  model.classes.find? (·.qualifiedName == qualifiedName)

/-- The first file with a path. -/
def sourceFile? (model : Model) (path : String) : Option SourceFile :=
  model.files.find? (·.path == path)

/-- A branch with its numbers moved up. -/
def shiftBranch (offset : Nat) (branch : Branch) : Branch :=
  { branch with id := branch.id + offset, parentId := branch.parentId.map (· + offset) }

/-- A model with the records of a second behind its own. The branches of the second are numbered
behind those of the first, and its line contexts replace those of the first for the same lines. What
was found out about the data flow of the second is left out. -/
def append (first second : Model) : Model where
  files := first.files ++ second.files
  classes := first.classes ++ second.classes
  functions := first.functions ++ second.functions
  variableDecls := first.variableDecls ++ second.variableDecls
  branches := first.branches ++ second.branches.map (shiftBranch first.branches.length)
  loops := first.loops ++ second.loops
  references := first.references ++ second.references
  calls := first.calls ++ second.calls
  lineContexts := first.lineContexts.update second.lineContexts
  dataflow := first.dataflow

/-- Many models as one, in their order. -/
def merge (models : List Model) : Model := models.foldl append {}

/-- The counts that are reported of a model. -/
structure Statistics where
  files : Nat
  classes : Nat
  functions : Nat
  branches : Nat
  loops : Nat
  variableDecls : Nat
  calls : Nat
  anomalies : Nat
  deriving DecidableEq, Repr

/-- The counts of a model. Without an analysis no anomaly is known. -/
def statistics (model : Model) : Statistics where
  files := model.files.length
  classes := model.classes.length
  functions := model.functions.length
  branches := model.branches.length
  loops := model.loops.length
  variableDecls := model.variableDecls.length
  calls := model.calls.length
  anomalies := model.dataflow.elim 0 fun found => found.anomalies.length

end Model

end BranchCover
