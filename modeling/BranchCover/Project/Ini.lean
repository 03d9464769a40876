import BranchCover.Text.LetterCase
import BranchCover.Text.Lines
import BranchCover.Text.Scan
import BranchCover.Text.Utf8

/-!
# Sectioned option files

Sections are headed by their names in brackets, and hold options `name = value` or `name: value`.
The names of options do not tell cases apart. A line that stands deeper than its option continues
the value, and a line that begins with `#` or `;` is a comment. The options of the section `DEFAULT`
belong to every section. In a value `%(name)s` stands for another option and `%%` for a percent
sign.

* `Ini.parse`: the sections and options of a file.
* `Ini.expand`: a value with what it refers to put in.
* `Ini.get?`: the value of an option.
-/

namespace BranchCover

/-- Why a file is no option file, or an option has no value. -/
inductive IniError where
  /-- An option before the first section. -/
  | missingSectionHeader
  /-- A line that is neither a header nor an option. -/
  | malformedLine
  | duplicateSection
  | duplicateOption
  /-- A percent sign that begins no reference. -/
  | badReference
  /-- A reference to an option that is not there. -/
  | missingReference
  /-- References that lead too far. -/
  | deepReference
  deriving DecidableEq, Repr

/-- The wording of an error. -/
def IniError.message : IniError → String
  | missingSectionHeader => "The file contains no section headers."
  | malformedLine => "The file contains lines that are no options."
  | duplicateSection => "A section is there twice."
  | duplicateOption => "An option is there twice."
  | badReference => "A '%' must be followed by '%' or by a reference."
  | missingReference => "A value refers to an option that is not there."
  | deepReference => "References lead too far."

/-- An option: the heading of its section, its name in lower case, and its value. -/
structure IniOption where
  heading : String
  name : String
  value : List Char
  deriving DecidableEq, Repr

/-- The sections and options of a file. -/
structure Ini where
  sections : List String := []
  options : List IniOption := []
  deriving DecidableEq, Repr

namespace Ini

/-- The section whose options belong to every section. -/
def defaultSection : String := "DEFAULT"

/-- The name of an option, in which case does not matter. -/
def optionName (name : List Char) : String := String.ofList (Text.lowerCase name)

/-! ### Reading -/

/-- How far a file is read. -/
structure Reader where
  sections : List String := []
  /-- The options so far, the last one first, with the lines of their values in the same order. -/
  options : List (String × String × List (List Char)) := []
  /-- The section under way. -/
  current : Option String := none
  /-- Whether the last option may be continued. -/
  continues : Bool := false
  /-- How deep the last header or option stands. -/
  indent : Nat := 0
  /-- Whether there was a malformed line. -/
  malformed : Bool := false
  deriving DecidableEq, Repr

namespace Reader

/-- One more line for the value of the last option. -/
def addLine (reader : Reader) (line : List Char) : Reader :=
  match reader.options with
  | (heading, name, lines) :: rest =>
    { reader with options := (heading, name, line :: lines) :: rest }
  | [] => reader

/-- The header that a line holds: what stands between a bracket at its head and the last closing
one. -/
def header? : List Char → Option String
  | '[' :: rest =>
    match Text.splitLast? ']' rest with
    | some (c :: name, _) => some (String.ofList (c :: name))
    | _ => none
  | _ => none

/-- A section begins. -/
def openSection (reader : Reader) (name : String) : Except IniError Reader :=
  if reader.sections.contains name then .error .duplicateSection
  else .ok { reader with
    sections := if name = defaultSection then reader.sections else reader.sections ++ [name]
    current := some name
    continues := false }

/-- Whether a character divides the name of an option from its value. -/
def isDelimiter (c : Char) : Bool := c == '=' || c == ':'

/-- A line that is no header is an option of a section. -/
def readOption (reader : Reader) (heading : String) (line : List Char) : Except IniError Reader :=
  match line.dropWhile (!isDelimiter ·) with
  | [] => .ok { reader with malformed := true }
  | _ :: value =>
    let name := optionName (Text.trimEnd (line.takeWhile (!isDelimiter ·)))
    if reader.options.any fun (other, known, _) => other = heading && known = name then
      .error .duplicateOption
    else .ok { reader with
      options := (heading, name, [Text.trim value]) :: reader.options
      continues := name ≠ ""
      malformed := reader.malformed || name = "" }

/-- A line that is not continued: a header or an option. -/
def readEntry (reader : Reader) (line : List Char) : Except IniError Reader :=
  match header? line, reader.current with
  | some name, _ => reader.openSection name
  | none, some heading => reader.readOption heading line
  | none, none => .error .missingSectionHeader

/-- One line of a file. -/
def readLine (reader : Reader) (line : List Char) : Except IniError Reader :=
  let content := Text.trim line
  let indent := (line.takeWhile Text.isBlank).length
  if content.head? = some '#' ∨ content.head? = some ';' then .ok reader
  else if content.isEmpty then
    .ok (if reader.continues then reader.addLine [] else reader)
  else if reader.continues && decide (reader.indent < indent) then .ok (reader.addLine content)
  else readEntry { reader with indent } content

/-- The options that were read, in their order. -/
def result (reader : Reader) : Except IniError Ini :=
  if reader.malformed then .error .malformedLine
  else .ok {
    sections := reader.sections
    options := reader.options.reverse.map fun (heading, name, lines) =>
      { heading, name, value := Text.trimEnd (Text.joinWith ['\n'] lines.reverse) } }

end Reader

/-- The sections and options of lines. -/
def parse (lines : List (List Char)) : Except IniError Ini := do
  (← lines.foldlM Reader.readLine {}).result

/-! ### Values -/

/-- The name of the option that a reference names, behind its opening bracket: not empty, and closed
by `)s`. -/
def reference? (text : List Char) : Option (List Char) :=
  match text.takeWhile (· != ')'), text.dropWhile (· != ')') with
  | c :: name, ')' :: 's' :: _ => some (c :: name)
  | _, _ => none

/-- A value with what it refers to put in. The first `skip` characters are read already; `expand`
puts in what another value refers to. -/
def expandFrom (value? : String → Option (List Char))
    (expand : List Char → Except IniError (List Char)) :
    Nat → List Char → Except IniError (List Char)
  | _, [] => .ok []
  | skip + 1, _ :: rest => expandFrom value? expand skip rest
  | 0, c :: rest =>
    if c ≠ '%' then (expandFrom value? expand 0 rest).map (c :: ·)
    else match rest with
      | '%' :: _ => (expandFrom value? expand 1 rest).map ('%' :: ·)
      | '(' :: body =>
        match reference? body with
        | none => .error .badReference
        | some name =>
          match value? (optionName name) with
          | none => .error .missingReference
          | some value => do
            let before ← if value.contains '%' then expand value else pure value
            let after ← expandFrom value? expand (name.length + 3) rest
            return before ++ after
      | _ => .error .badReference

/-- A value with what it refers to put in, through at most so many levels. -/
def expand (value? : String → Option (List Char)) : Nat → List Char → Except IniError (List Char)
  | 0, _ => .error .deepReference
  | depth + 1, text => expandFrom value? (expand value? depth) 0 text

/-- The most levels that references may lead through. -/
def maxDepth : Nat := 10

/-- The value of an option as it is written, in its own section or else in the default section. -/
def raw? (ini : Ini) (heading name : String) : Option (List Char) :=
  let from? (place : String) :=
    (ini.options.find? fun option => option.heading = place && option.name = name).map (·.value)
  match from? heading with
  | some value => some value
  | none => from? defaultSection

/-- The value of an option, if its section is there and it has one. -/
def get? (ini : Ini) (heading name : String) : Except IniError (Option String) :=
  if ini.sections.contains heading then
    match ini.raw? heading name with
    | none => .ok none
    | some value => (expand (ini.raw? heading) maxDepth value).map fun text =>
        some (String.ofList text)
  else .ok none

end Ini

end BranchCover
