import BranchCover.CommandLine.Arguments
import BranchCover.Project.Generation
import BranchCover.Text.Terminal

/-!
# The command line

`generate PROJECT` writes the suites of a project and `analyze PROJECT` prints what was found out
about it.

* `CommandLine.configure`: the configuration of a run.
* `CommandLine.run`: what a command line prints and writes, and its exit code.
-/

namespace BranchCover.CommandLine

/-- What escapes from a run that stops early. -/
inductive Failure where
  | options (error : IniError)
  | encoding (error : Utf8.DecodeError)
  | file (error : FileError)
  | run (error : RunError)
  deriving DecidableEq, Repr

/-- The wording of a failure. -/
def Failure.message : Failure → String
  | options error => error.message
  | encoding error => error.message
  | file error => error.message
  | run error => error.message

/-- What a command line comes to. -/
structure Outcome where
  exitCode : Nat := 0
  output : String := ""
  errors : String := ""
  /-- What is wrong with the command line itself. -/
  usage : Option UsageError := none
  failure : Option Failure := none
  deriving DecidableEq, Repr

/-- Lines as they are printed: each with its line feed, and without control sequences. -/
def unlines (lines : List String) : String :=
  String.ofList (Text.withoutSequences (String.join (lines.map (· ++ "\n"))).toList)

/-- The outcome of a run that something escapes from. -/
def Outcome.escaped (failure : Failure) : Outcome where
  exitCode := 1
  failure := some failure

/-- An outcome that is one line about an error. -/
def Outcome.error (exitCode : Nat) (line : String) : Outcome where
  exitCode
  errors := unlines [line]

/-- The exit code for a project that is no directory. -/
def badProjectCode : Nat := 1

/-- The exit code for a wrong configuration. -/
def configErrorCode : Nat := 2

/-- The exit code for a suite that cannot be written. -/
def writeErrorCode : Nat := 3

/-! ### Configurations -/

/-- The value of a choice that a command line may set. -/
def chosen (option : ChoiceOption α) (current : α) : Option String → Except LoadError α
  | none => .ok current
  | some text =>
    match option.value? text with
    | some value => .ok value
    | none => .error (.config (.badOverride option.name text option.texts))

/-- A configuration with what the command line sets. -/
def override (config : Config) (overrides : Overrides) : Except LoadError Config := do
  let synthesis := config.synthesis
  let policy ← chosen Config.policyOption synthesis.policy overrides.policy
  let oracle ← chosen Config.oracleOption synthesis.oracle overrides.oracle
  return { config with
    synthesis := { synthesis with seed := overrides.seed.getD synthesis.seed, policy, oracle }
    outputDirectory :=
      match overrides.output with
      | some path => path.text
      | none => config.outputDirectory }

/-- The configuration of a run. -/
def configure (tree : FileTree) (project : Path) (file : Option Path) (overrides : Overrides) :
    Except LoadError Config := do
  override (← Config.load tree project file) overrides

/-- The outcome of a run that has no configuration. -/
def loadFailure : LoadError → Outcome
  | .config error => .error configErrorCode ("Configuration error: " ++ error.message)
  | .ini error => .escaped (.options error)
  | .encoding error => .escaped (.encoding error)
  | .file error => .escaped (.file error)

/-- The outcome of a run that gives no result. -/
def runFailure : RunError → Outcome
  | .emission error =>
    if error.isNoPath then .escaped (.run (.emission error))
    else .error writeErrorCode ("Error: " ++ error.message)
  | error => .escaped (.run error)

/-! ### Reports -/

/-- The lines with the counts of a run. -/
def statisticsLines (result : RunResult) : List String :=
  let statistics := result.statistics
  ["Files analyzed: " ++ toString result.files.length,
   "Classes: " ++ toString statistics.classes,
   "Functions: " ++ toString statistics.functions,
   "Branches: " ++ toString statistics.branches,
   "Variables: " ++ toString statistics.variableDecls,
   "Anomalies: " ++ toString statistics.anomalies]

/-- The line about an anomaly. -/
def anomalyLine (anomaly : Anomaly) : String :=
  anomaly.file ++ ":" ++ toString anomaly.line ++ ": " ++ anomaly.kind.text ++ ": "
    ++ anomaly.description

/-- The report of an analysis. -/
def analysisLines (result : RunResult) : List String :=
  statisticsLines result ++ (result.model.dataflow.elim [] (·.anomalies)).map anomalyLine
    ++ result.warnings.map fun warning => "warning: " ++ warning.text

/-- The report of a generation. -/
def generationLines (config : Config) (dry : Bool) (result : RunResult) : List String :=
  statisticsLines result
    ++ ["Test cases: " ++ toString result.tests.length ++ " ("
          ++ toString (TestCase.basicCount result.tests) ++ " basic, "
          ++ toString (TestCase.branchCount result.tests) ++ " branch)",
        "Suites: " ++ toString result.suites.length,
        if dry then "Dry run: no files written"
        else "Wrote " ++ toString result.written.length ++ " files to " ++ config.outputPath.text]
    ++ if result.warnings.isEmpty then [] else ["Warnings: " ++ toString result.warnings.length]

/-- The text that explains the commands. -/
def helpLines : List String :=
  ["Generate JUnit 5 branch-coverage tests for a Kotlin code base.",
   "",
   "generate PROJECT_ROOT  Analyze PROJECT_ROOT and write branch-coverage test suites.",
   "analyze PROJECT_ROOT   Print model statistics and data-flow anomalies for PROJECT_ROOT."]

/-! ### Runs -/

/-- The languages whose files are analyzed. -/
def languages : List Language := [.kotlin]

/-- The generator of a project, if the project is a directory and has a configuration. -/
def generatorFor (grammar : Grammar) (tree : FileTree) (project : Path) (file : Option Path)
    (overrides : Overrides) : Except Outcome Generator :=
  match tree.find project with
  | .error error => .error (.escaped (.file error))
  | .ok (some .directory) =>
    match tree.resolve project with
    | .error error => .error (.escaped (.file error))
    | .ok project =>
      match configure tree project file overrides with
      | .ok config => .ok { config, languages, grammar }
      | .error error => .error (loadFailure error)
  | .ok _ => .error (.error badProjectCode ("Error: " ++ project.text ++ " is not a directory"))

/-- What a request comes to, and the tree behind it. -/
def perform (grammar : Grammar) (tree : FileTree) : Request → Outcome × FileTree
  | .help => ({ output := unlines helpLines }, tree)
  | .generate project file overrides dry =>
    match generatorFor grammar tree project file overrides with
    | .error outcome => (outcome, tree)
    | .ok generator =>
      match generator.run dry tree with
      | (.ok result, tree) =>
        ({ output := unlines (generationLines generator.config dry result) }, tree)
      | (.error error, tree) => (runFailure error, tree)
  | .analyze project file =>
    match generatorFor grammar tree project file {} with
    | .error outcome => (outcome, tree)
    | .ok generator =>
      match generator.analyze tree with
      | .ok result => ({ output := unlines (analysisLines result) }, tree)
      | .error error => (runFailure error, tree)

/-- What a command line comes to, and the tree behind it. -/
def run (grammar : Grammar) (tree : FileTree) (arguments : List String) : Outcome × FileTree :=
  match Request.parse arguments with
  | .ok request => perform grammar tree request
  | .error error => ({ exitCode := 2, usage := some error }, tree)

end BranchCover.CommandLine
