import BranchCover.Project.FileTree
import BranchCover.Project.Ini
import BranchCover.Synthesis.Settings
import BranchCover.Text.Integer

/-!
# Configuration

A project is configured by an option file in its root, or by another one that is named. Every option
has a default; integers have bounds, and some options have one of a few values.

* `IntegerOption`, `ChoiceOption`: what an option may be.
* `Config.ofIni`: the configuration that options give.
* `Config.load`: the configuration of a project.
* `SettingsCache.load`: the configuration that the environment asks for, loaded once.
-/

namespace BranchCover

/-! ### Errors -/

/-- What is wrong with a configuration. -/
inductive ConfigError where
  /-- A value that is no integer. -/
  | notInteger (heading name value : String)
  | belowMinimum (heading name : String) (value least : Int)
  | aboveMaximum (heading name : String) (value greatest : Int)
  /-- A value that is none of the choices. -/
  | notChoice (heading name value : String) (choices : List String)
  /-- A value given on the command line that is none of the choices. -/
  | badOverride (name value : String) (choices : List String)
  /-- A seed given in the environment that is no integer. -/
  | badSeed (value : String)
  | fileMissing (path : Path)
  deriving DecidableEq, Repr

/-- Choices one after another. -/
def choiceList (choices : List String) : String := ", ".intercalate choices

/-- An option with its section. -/
def optionLabel (heading name : String) : String := "[" ++ heading ++ "]." ++ name

/-- The wording of an error. -/
def ConfigError.message : ConfigError → String
  | notInteger heading name value =>
    "Invalid value for " ++ optionLabel heading name ++ ": " ++ Text.shown value ++
      " (expected int)"
  | belowMinimum heading name value least =>
    "Value for " ++ optionLabel heading name ++ " is " ++ Number.intText value
      ++ ", but minimum is " ++ Number.intText least
  | aboveMaximum heading name value greatest =>
    "Value for " ++ optionLabel heading name ++ " is " ++ Number.intText value
      ++ ", but maximum is " ++ Number.intText greatest
  | notChoice heading name value choices =>
    "Value for " ++ optionLabel heading name ++ " is " ++ Text.shown value ++ ", expected one of "
      ++ choiceList choices
  | badOverride name value choices =>
    "Invalid " ++ name ++ " " ++ Text.shown value ++ ", expected one of " ++ choiceList choices
  | badSeed value => "Invalid STGE_SEED: " ++ Text.shown value
  | fileMissing path => "Config file not found: " ++ path.text

/-- Why there is no configuration. -/
inductive LoadError where
  | config (error : ConfigError)
  | ini (error : IniError)
  | encoding (error : Utf8.DecodeError)
  /-- The option file cannot be looked up. -/
  | file (error : FileError)
  deriving DecidableEq, Repr

/-! ### Options -/

/-- An option that is an integer within bounds. -/
structure IntegerOption where
  heading : String
  name : String
  default : Int
  least : Int
  greatest : Option Int
  deriving DecidableEq, Repr

/-- An option that is one of a few values. -/
structure ChoiceOption (α : Type) where
  heading : String
  name : String
  default : α
  /-- The values in the order in which they are listed. -/
  choices : List α
  /-- How a value is written. -/
  text : α → String

/-- An integer within the bounds of an option. -/
def IntegerOption.check (option : IntegerOption) (value : Int) : Except ConfigError Int :=
  if value < option.least then .error (.belowMinimum option.heading option.name value option.least)
  else match option.greatest with
    | some greatest =>
      if greatest < value then .error (.aboveMaximum option.heading option.name value greatest)
      else .ok value
    | none => .ok value

/-- The value of an integer option. -/
def IntegerOption.read (option : IntegerOption) (ini : Ini) : Except LoadError Int := do
  match ← (ini.get? option.heading option.name).mapError LoadError.ini with
  | none => (option.check option.default).mapError LoadError.config
  | some raw =>
    match Text.integer? raw with
    | none => throw (.config (.notInteger option.heading option.name raw))
    | some value => (option.check value).mapError LoadError.config

/-- The texts of the values of an option. -/
def ChoiceOption.texts (option : ChoiceOption α) : List String := option.choices.map option.text

/-- The value that a text names. -/
def ChoiceOption.value? (option : ChoiceOption α) (text : String) : Option α :=
  option.choices.find? fun choice => option.text choice = text

/-- The value of an option that is one of a few. -/
def ChoiceOption.read (option : ChoiceOption α) (ini : Ini) : Except LoadError α := do
  match ← (ini.get? option.heading option.name).mapError LoadError.ini with
  | none => return option.default
  | some raw =>
    match option.value? (trimmed raw) with
    | some value => return value
    | none =>
      throw (.config (.notChoice option.heading option.name (trimmed raw) option.texts))

namespace Config

/-- The value of an option that is any text. -/
def readText (ini : Ini) (heading name default : String) : Except LoadError String := do
  match ← (ini.get? heading name).mapError LoadError.ini with
  | none => return default
  | some raw => return trimmed raw

/-- The texts that mean yes. -/
def affirmations : List String := ["true", "1", "yes", "on"]

/-- The value of an option that is yes or no. -/
def readFlag (ini : Ini) (heading name : String) (default : Bool) : Except LoadError Bool := do
  match ← (ini.get? heading name).mapError LoadError.ini with
  | none => return default
  | some raw => return affirmations.contains (String.ofList (Text.lowerCase raw.toList))

/-- The seed of every random choice. -/
def seedOption : IntegerOption :=
  { heading := "synthesis", name := "seed", default := 42, least := 0, greatest := none }

/-- The policy for compound conditions. -/
def policyOption : ChoiceOption Policy :=
  { heading := "synthesis", name := "combination_policy", default := .exhaustive
    choices := [.exhaustive, .targeted], text := Policy.text }

/-- The attempts of the targeted policy. -/
def attemptBudgetOption : IntegerOption :=
  { heading := "synthesis", name := "attempt_budget", default := 100, least := 1
    greatest := some 10000 }

/-- The most atoms of a condition whose assignments are all tried. -/
def maxExhaustiveAtomsOption : IntegerOption :=
  { heading := "synthesis", name := "max_exhaustive_atoms", default := 8, least := 1
    greatest := some 16 }

/-- The attempts to find a value outside every entry. -/
def elseRetryLimitOption : IntegerOption :=
  { heading := "synthesis", name := "else_retry_limit", default := 1000, least := 1
    greatest := some 100000 }

/-- How expected results are found. -/
def oracleOption : ChoiceOption Oracle.Mode :=
  { heading := "synthesis", name := "oracle_mode", default := .heuristic
    choices := [.heuristic, .exact], text := Oracle.Mode.text }

/-- The largest size of a file. -/
def maxKilobytesOption : IntegerOption :=
  { heading := "files", name := "max_file_size_kb", default := 500, least := 1
    greatest := some 10000 }

/-- How many files are read at a time. -/
def parallelLimitOption : IntegerOption :=
  { heading := "files", name := "parallel_limit", default := 4, least := 1, greatest := some 64 }

end Config

/-! ### Configurations -/

/-- How a project is analyzed and where its tests go. -/
structure Config where
  project : Path
  synthesis : SynthesisSettings := {}
  /-- The package of suites that have none. -/
  defaultPackage : String := "generated"
  /-- Where suites are written, below the project unless it is absolute. -/
  outputDirectory : String := "src/test/kotlin"
  maxKilobytes : Int := 500
  parallelLimit : Int := 4
  /-- Where patterns for files to leave out are listed. -/
  ignoreFile : String := ".stgeignore"
  deriving DecidableEq, Repr

namespace Config

/-- The directory that suites are written to. -/
def outputPath (config : Config) : Path :=
  config.project.join (Path.ofString config.outputDirectory)

/-- The path of the ignore file. -/
def ignorePath (config : Config) : Path := config.project.join (Path.ofString config.ignoreFile)

/-- The configuration that options give. The first option that is wrong is reported. -/
def ofIni (project : Path) (ini : Ini) : Except LoadError Config := do
  let seed ← seedOption.read ini
  let policy ← policyOption.read ini
  let attemptBudget ← attemptBudgetOption.read ini
  let maxExhaustiveAtoms ← maxExhaustiveAtomsOption.read ini
  let elseRetryLimit ← elseRetryLimitOption.read ini
  let oracle ← oracleOption.read ini
  let dedupeUses ← readFlag ini "synthesis" "dedupe_uses" true
  let defaultPackage ← readText ini "emission" "default_package" "generated"
  let outputDirectory ← readText ini "emission" "output_dir" "src/test/kotlin"
  let maxKilobytes ← maxKilobytesOption.read ini
  let parallelLimit ← parallelLimitOption.read ini
  let ignoreFile ← readText ini "paths" "ignore_file" ".stgeignore"
  return {
    project
    synthesis :=
      { seed, policy, attemptBudget, maxExhaustiveAtoms, elseRetryLimit, oracle, dedupeUses }
    defaultPackage, outputDirectory, maxKilobytes, parallelLimit, ignoreFile }

/-- The name of the option file in the root of a project. -/
def fileName : String := "stge.ini"

/-- The lines of an option file as they come, and what ends them early. Bytes that are no character
are met before the first line, but a last character that breaks off only behind the whole lines
before it, and its place is counted from itself. -/
def linesOf (bytes : List UInt8) : List (List Char) × Option Utf8.DecodeError :=
  match Utf8.decode bytes with
  | .ok text => (Text.lines (Text.normalizeNewlines text), none)
  | .error error =>
    if error.reason = .endOfData then
      let text := Utf8.decodeLossy (bytes.take error.position)
      ((Text.lines (Text.normalizeNewlines text)).dropLast, some { error with position := 0 })
    else ([], some error)

/-- The options of the bytes of a file. -/
def iniOfBytes (bytes : List UInt8) : Except LoadError Ini := do
  let (lines, failure) := linesOf bytes
  let reader ← (lines.foldlM Ini.Reader.readLine {}).mapError LoadError.ini
  match failure with
  | some error => throw (.encoding error)
  | none => reader.result.mapError LoadError.ini

/-- The options of a file; what cannot be read, such as a directory, has none. -/
def iniAt (tree : FileTree) (path : Path) : Except LoadError Ini :=
  match tree.read path with
  | .ok bytes => iniOfBytes bytes
  | .error _ => .ok {}

/-- The configuration of a project. A file that is named must be there; without one, the file in the
root of the project counts if it is there. -/
def load (tree : FileTree) (project : Path) (file : Option Path) : Except LoadError Config :=
  let path := file.getD (project.join (Path.ofString fileName))
  match tree.find path with
  | .error error => .error (.file error)
  | .ok (some _) => do ofIni project (← iniAt tree path)
  | .ok none => if file.isSome then .error (.config (.fileMissing path)) else ofIni project {}

end Config

/-! ### The environment -/

/-- What the environment says. -/
structure Environment where
  project : Option String := none
  seed : Option String := none
  deriving DecidableEq, Repr

/-- Why the environment gives no configuration. -/
inductive SettingsError where
  | noProject
  | load (error : LoadError)
  deriving DecidableEq, Repr

/-- The wording for a missing project. -/
def noProjectMessage : String := "STGE_PROJECT_PATH environment variable must be set"

/-- The configuration that the environment asks for. An empty text counts as none. -/
def Environment.config (environment : Environment) (tree : FileTree) :
    Except SettingsError Config := do
  let project := environment.project.getD ""
  if project = "" then throw .noProject
  let config ← (Config.load tree (Path.ofString project) none).mapError SettingsError.load
  let seed := environment.seed.getD ""
  if seed = "" then return config
  match Text.integer? seed with
  | some n => return { config with synthesis := { config.synthesis with seed := n } }
  | none => throw (.load (.config (.badSeed seed)))

/-- The configuration that was loaded, if one was. -/
abbrev SettingsCache := Option Config

/-- The configuration that was loaded before, or else the one that the environment asks for now;
errors are not kept. -/
def SettingsCache.load (cache : SettingsCache) (environment : Environment) (tree : FileTree) :
    Except SettingsError Config × SettingsCache :=
  match cache with
  | some config => (.ok config, cache)
  | none =>
    match environment.config tree with
    | .ok config => (.ok config, some config)
    | .error error => (.error error, none)

end BranchCover
