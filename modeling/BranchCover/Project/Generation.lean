import BranchCover.DataFlow.Analysis
import BranchCover.Model.Build
import BranchCover.Project.Config
import BranchCover.Project.FileFilter
import BranchCover.Suite.Write
import BranchCover.Syntax.Language
import BranchCover.Synthesis.Basic

/-!
# Generation of the tests of a project

The source files of a project are found, read and modeled; the model is analyzed, tests are made for
it, and their suites are written.

* `pieces`, `batches`: a list in pieces of a given size.
* `Generator.buildModel`: the model of the files of a project.
* `Generator.analyze`: the model and its data flow.
* `Generator.run`: the tests and their suites too.
-/

namespace BranchCover

/-! ### Batches -/

/-- A list in pieces of a given size; the last piece may be shorter. Pieces of size zero hold
nothing. -/
def pieces (size : Nat) (items : List α) : List (List α) :=
  if 0 < size ∧ 0 < items.length then items.take size :: pieces size (items.drop size) else []
termination_by items.length
decreasing_by
  rw [List.length_drop]
  omega

/-- Why a number of files cannot be read at a time. -/
inductive LimitFault where
  /-- Nobody is there to read a file. -/
  | noReader
  /-- The number is negative. -/
  | negative
  /-- The number is no size of the machine, or it is the one that stands for no size. -/
  | noSize
  deriving DecidableEq, Repr

/-- The wording of a fault. -/
def LimitFault.message : LimitFault → String
  | noReader => "max_workers must be greater than 0"
  | negative => "Indices for islice() must be None or an integer: 0 <= x <= sys.maxsize."
  | noSize => "Stop argument for islice() must be None or an integer: 0 <= x <= sys.maxsize."

/-- The largest size of a batch, which is `2 ^ 63 - 1`. -/
def maxBatchSize : Int := 9223372036854775807

/-- A list in pieces of a given size, if that is a size. -/
def batches (size : Int) (items : List α) : Except LimitFault (List (List α)) :=
  if size < -maxBatchSize - 1 ∨ maxBatchSize < size ∨ size = -1 then .error .noSize
  else if size < 0 then .error .negative
  else .ok (pieces size.toNat items)

/-! ### Runs -/

/-- The concrete trees of the texts that a grammar understands. -/
abbrev Grammar := String → Option (List ConcreteTree)

/-- What is needed to generate the tests of a project. -/
structure Generator where
  config : Config
  languages : List Language
  grammar : Grammar

/-- Why a run gives no result. -/
inductive RunError where
  /-- The ignore file cannot be read. -/
  | ignoreFile (error : ReadError)
  /-- So many files cannot be read at a time. -/
  | limit (fault : LimitFault)
  /-- A file has the path of nothing. -/
  | noPath (error : FileError)
  /-- A number cannot be read, or cannot be written in the type that it is needed in. -/
  | number (error : Number.Error)
  /-- A suite cannot be written. -/
  | emission (error : EmissionError)
  deriving DecidableEq, Repr

/-- The wording of an error. -/
def RunError.message : RunError → String
  | ignoreFile error => error.message
  | limit fault => fault.message
  | noPath error => error.message
  | number error => error.message
  | emission error => error.message

/-- What a run gives. -/
structure RunResult where
  files : List String := []
  model : Model := {}
  tests : List TestCase := []
  suites : List Suite := []
  written : List Path := []
  warnings : List Warning := []

/-- The counts that are reported of a run. -/
def RunResult.statistics (result : RunResult) : Model.Statistics := result.model.statistics

namespace Generator

/-- The source files of the project. -/
def discover (generator : Generator) (tree : FileTree) : Except RunError (List String) :=
  let config := generator.config
  let options : FileFilter.Options :=
    { maxKilobytes := some config.maxKilobytes, ignorePath := some config.ignorePath }
  match FileFilter.load tree config.project options with
  | .ok filter => .ok (filter.select tree config.project)
  | .error error => .error (.ignoreFile error)

/-- What a file gives that cannot be modeled. -/
def unreadable (path : Path) (message : String) : BuildResult where
  warnings := [{ kind := .parseError, message, file := some path.text }]

/-- The path of a file of the project. -/
def pathOf (generator : Generator) (file : String) : Path :=
  generator.config.project.join (Path.ofString file)

/-- The model of one file, by its path in the project. A file that cannot be read or parsed gives a
warning; the path of nothing gives no result. -/
def buildFile (generator : Generator) (tree : FileTree) (file : String) :
    Except FileError BuildResult := do
  let path ← tree.resolve (generator.pathOf file)
  match tree.readText path with
  | .error error => return unreadable path ("Could not read file: " ++ error.message)
  | .ok text =>
    let content := String.ofList text
    match Language.parse generator.languages path content (generator.grammar content) with
    | .error error => return unreadable path error.message
    | .ok parsed => return Model.build parsed

/-- The model of several files, which are read in batches, and the warnings in the order of the
files. The first file without a result leaves the others without one. -/
def buildModel (generator : Generator) (tree : FileTree) (files : List String) :
    Except RunError BuildResult :=
  if generator.config.parallelLimit < 1 then .error (.limit .noReader)
  else do
    let parts ← (batches generator.config.parallelLimit files).mapError .limit
    let results ← Except.mapError .noPath <|
      parts.mapM fun batch => batch.mapM (generator.buildFile tree)
    return BuildResult.merge results.flatten

/-- The model of the project with its data flow. -/
def analyze (generator : Generator) (tree : FileTree) : Except RunError RunResult := do
  let files ← generator.discover tree
  let built ← generator.buildModel tree files
  return {
    files
    model := DataFlow.attach built.model generator.config.synthesis.dedupeUses
    warnings := built.warnings }

/-- The tests of the project and their suites. -/
def plan (generator : Generator) (tree : FileTree) : Except RunError RunResult := do
  let analyzed ← generator.analyze tree
  let synthesis ←
    (Synthesis.synthesize generator.config.synthesis analyzed.model).mapError RunError.number
  return { analyzed with
    tests := synthesis.tests
    suites := Suite.group synthesis.tests generator.config.defaultPackage
    warnings := analyzed.warnings ++ synthesis.warnings }

/-- The tests of the project and their suites, which are written unless it is a dry run; and the
tree behind it. -/
def run (generator : Generator) (dry : Bool) (tree : FileTree) :
    Except RunError RunResult × FileTree :=
  match generator.plan tree with
  | .error error => (.error error, tree)
  | .ok planned =>
    if dry then (.ok planned, tree)
    else
      match RenderedSuite.writeAll generator.config.outputPath
        (planned.suites.map Suite.render) tree with
      | (.ok written, tree) => (.ok { planned with written }, tree)
      | (.error error, tree) => (.error (.emission error), tree)

end Generator

end BranchCover
