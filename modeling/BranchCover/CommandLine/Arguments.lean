import BranchCover.Project.Path
import BranchCover.Text.Integer
import BranchCover.Text.Quoted
import BranchCover.Text.Scan

/-!
# Command line arguments

A command is followed by its arguments. `--name value`, `--name=value`, `-n value` and `-nvalue`
give a value to an option, several short flags may stand together as in `-abc`, and behind `--`
nothing is an option.

* `Arguments.scan`: the options and the other arguments of a command.
* `Request.parse`: what a command line asks for.
-/

namespace BranchCover.CommandLine

/-- An option of a command. -/
structure OptionSpec where
  /-- The name behind two hyphens. -/
  long : String
  /-- The letter behind one hyphen. -/
  short : Option Char := none
  /-- Whether a value follows. -/
  takesValue : Bool := true
  deriving DecidableEq, Repr

/-- What is wrong with a command line. -/
inductive UsageError where
  | noCommand
  | unknownCommand (name : String)
  | unknownOption (text : String)
  | missingValue (option : String)
  | unexpectedValue (option : String)
  | missingArgument
  | unexpectedArgument (text : String)
  | notInteger (option text : String)
  | notPath (text : String)
  deriving DecidableEq, Repr

/-- The wording of an error. -/
def UsageError.message : UsageError → String
  | noCommand => "Missing command."
  | unknownCommand name => "No such command " ++ Text.shown name ++ "."
  | unknownOption text => "No such option: " ++ text
  | missingValue option => "Option '--" ++ option ++ "' requires an argument."
  | unexpectedValue option => "Option '--" ++ option ++ "' does not take a value."
  | missingArgument => "Missing argument 'PROJECT_ROOT'."
  | unexpectedArgument text => "Got unexpected extra argument (" ++ text ++ ")"
  | notInteger option text =>
    "Invalid value for '--" ++ option ++ "': " ++ Text.shown text ++ " is not a valid integer."
  | notPath text => "Invalid value: " ++ Text.shown text ++ " is not a valid path."

/-- The options that were given, by their long names, and the other arguments. A flag has an empty
value. -/
structure Arguments where
  options : List (String × String) := []
  positional : List String := []
  deriving DecidableEq, Repr

/-- What one argument is: options with their values, and perhaps one whose value is still to
come. -/
structure Reading where
  options : List (String × String) := []
  awaiting : Option String := none
  deriving DecidableEq, Repr

/-- The long option of a name, with the value behind an equals sign. -/
def readLong (option : OptionSpec) (value : Option String) : Except UsageError Reading :=
  match option.takesValue, value with
  | true, some value => .ok { options := [(option.long, value)] }
  | true, none => .ok { awaiting := some option.long }
  | false, none => .ok { options := [(option.long, "")] }
  | false, some _ => .error (.unexpectedValue option.long)

/-- The short options of letters that stand together. What follows the letter of an option with a
value is its value. -/
def readShort (specs : List OptionSpec) : List Char → Except UsageError Reading
  | [] => .ok {}
  | letter :: rest =>
    match specs.find? (·.short = some letter) with
    | none => .error (.unknownOption (String.ofList ['-', letter]))
    | some option =>
      if option.takesValue then
        if rest.isEmpty then .ok { awaiting := some option.long }
        else .ok { options := [(option.long, String.ofList rest)] }
      else (readShort specs rest).map fun reading =>
        { reading with options := (option.long, "") :: reading.options }

/-- What an argument that begins with a hyphen is. -/
def readOption (specs : List OptionSpec) (text : List Char) : Except UsageError Reading :=
  let (name, value) :=
    match Text.splitFirst? '=' text with
    | some (name, value) => (name, some (String.ofList value))
    | none => (text, none)
  match specs.find? fun option => name = '-' :: '-' :: option.long.toList with
  | some option => readLong option value
  | none =>
    if Text.startsWith text ['-', '-'] then .error (.unknownOption (String.ofList name))
    else readShort specs text.tail

/-- Whether an argument is an option. -/
def isOption (text : List Char) : Bool := text.head? = some '-' && 1 < text.length

namespace Arguments

/-- Arguments with more options behind those before. -/
def addOptions (found : Arguments) (options : List (String × String)) : Arguments :=
  { found with options := found.options ++ options }

/-- Arguments with more behind the positional ones. -/
def addPositional (found : Arguments) (texts : List String) : Arguments :=
  { found with positional := found.positional ++ texts }

/-- The options and the other arguments of a command, behind those found so far. -/
def scanFrom (specs : List OptionSpec) (found : Arguments) :
    List String → Except UsageError Arguments
  | [] => .ok found
  | text :: rest =>
    if text = "--" then .ok (found.addPositional rest)
    else if isOption text.toList then
      match readOption specs text.toList with
      | .error error => .error error
      | .ok { options, awaiting := none } => scanFrom specs (found.addOptions options) rest
      | .ok { options, awaiting := some name } =>
        match rest with
        | [] => .error (.missingValue name)
        | value :: rest => scanFrom specs (found.addOptions (options ++ [(name, value)])) rest
    else scanFrom specs (found.addPositional [text]) rest

/-- The options and the other arguments of a command. -/
def scan (specs : List OptionSpec) (texts : List String) : Except UsageError Arguments :=
  scanFrom specs {} texts

/-- The value of an option; the last one counts. -/
def value? (found : Arguments) (name : String) : Option String :=
  (found.options.reverse.find? (·.1 = name)).map (·.2)

/-- Whether a flag was given. -/
def has (found : Arguments) (name : String) : Bool := (found.value? name).isSome

/-- The one positional argument. -/
def single (found : Arguments) : Except UsageError String :=
  match found.positional with
  | [] => .error .missingArgument
  | [text] => .ok text
  | _ :: text :: _ => .error (.unexpectedArgument text)

end Arguments

/-! ### Commands -/

/-- What a run may set apart from the configuration of the project. -/
structure Overrides where
  output : Option Path := none
  seed : Option Int := none
  policy : Option String := none
  oracle : Option String := none
  deriving DecidableEq, Repr

/-- What a command line asks for. -/
inductive Request where
  | help
  | generate (project : Path) (config : Option Path) (overrides : Overrides) (dry : Bool)
  | analyze (project : Path) (config : Option Path)
  deriving DecidableEq, Repr

/-- The flag that asks for help. -/
def helpFlag : OptionSpec := { long := "help", takesValue := false }

/-- The options of every command. -/
def commonOptions : List OptionSpec :=
  [{ long := "config" }, { long := "verbose", short := some 'v', takesValue := false }, helpFlag]

/-- The options of the command that generates tests. -/
def generateOptions : List OptionSpec :=
  [{ long := "output", short := some 'o' }, { long := "seed" }, { long := "policy" },
   { long := "oracle" }, { long := "dry-run", takesValue := false }] ++ commonOptions

namespace Request

/-- The seed that was given. -/
def seedOf (found : Arguments) : Except UsageError (Option Int) :=
  match found.value? "seed" with
  | none => .ok none
  | some text =>
    match Text.typedInteger? text with
    | some n => .ok (some n)
    | none => .error (.notInteger "seed" text)

/-- The path that an argument gives, which has no null character. -/
def pathOf (text : String) : Except UsageError Path :=
  let path := Path.ofString text
  if path.hasNull then .error (.notPath text) else .ok path

/-- The path that an option gives, if it was given. -/
def optionPath (found : Arguments) (name : String) : Except UsageError (Option Path) :=
  match found.value? name with
  | some text => (pathOf text).map some
  | none => .ok none

/-- The request to generate tests. -/
def parseGenerate (texts : List String) : Except UsageError Request := do
  let found ← Arguments.scan generateOptions texts
  if found.has "help" then return .help
  let project ← pathOf (← found.single)
  let output ← optionPath found "output"
  let seed ← seedOf found
  let config ← optionPath found "config"
  return .generate project config
    { output, seed, policy := found.value? "policy", oracle := found.value? "oracle" }
    (found.has "dry-run")

/-- The request to analyze. -/
def parseAnalyze (texts : List String) : Except UsageError Request := do
  let found ← Arguments.scan commonOptions texts
  if found.has "help" then return .help
  let project ← pathOf (← found.single)
  let config ← optionPath found "config"
  return .analyze project config

/-- The request of a command and its arguments. -/
def parseCommand (name : String) (texts : List String) : Except UsageError Request :=
  if name = "generate" then parseGenerate texts
  else if name = "analyze" then parseAnalyze texts
  else .error (.unknownCommand name)

/-- What the arguments in front of a command ask for, and the command. -/
def parseFrom (help : Bool) : List String → Except UsageError Request
  | [] => if help then .ok .help else .error .noCommand
  | text :: rest =>
    if text = "--" then
      if help then .ok .help
      else match rest with
        | [] => .error .noCommand
        | name :: rest => parseCommand name rest
    else if isOption text.toList then
      match readOption [helpFlag] text.toList with
      | .error error => .error error
      | .ok _ => parseFrom true rest
    else if help then .ok .help
    else parseCommand text rest

/-- What a command line asks for. -/
def parse (texts : List String) : Except UsageError Request := parseFrom false texts

end Request

end BranchCover.CommandLine
