import BranchCover.Literal.Quoted
import BranchCover.Text.Scan
import BranchCover.Text.Word

/-!
# Names inside a text

* `identifiers`: the identifiers in a text, each with the character before it.
* `mentions`: whether a name occurs as a word of its own, and not as a member.
* `indexes`: whether a name stands alone in square brackets.
* `withoutStrings`: a text whose string literals are empty.
-/

namespace BranchCover.Text

/-- The run of word characters that ends here, with the character before it. -/
def closeRun (before : Option Char) (run : List Char) : List (Option Char × List Char) :=
  if run.isEmpty then [] else [(before, run.reverse)]

/-- The maximal runs of word characters, each with the character before it. `run` is the run under
way, reversed, and `before` the character before it. -/
def wordRunsFrom (before : Option Char) (run : List Char) :
    List Char → List (Option Char × List Char)
  | [] => closeRun before run
  | c :: rest =>
    if isWord c then wordRunsFrom before (c :: run) rest
    else closeRun before run ++ wordRunsFrom (some c) [] rest

/-- The identifiers in a text, each with the character before it. -/
def identifiers (text : List Char) : List (Option Char × List Char) :=
  (wordRunsFrom none [] text).filter fun (_, run) => run.head?.any isIdentifierStart

/-- Whether a word starts or ends between two characters. -/
def isBoundary (before after : Option Char) : Bool := before.any isWord != after.any isWord

/-- Whether a name occurs at the head of a text, with the given character before it, as a word of
its own and not behind a point. -/
def mentionsAt (name : List Char) (before : Option Char) (text : List Char) : Bool :=
  !before.any (fun c => isWord c || c == '.') &&
    match dropHead? name text with
    | some rest => isBoundary (name.getLast? <|> before) rest.head?
    | none => false

/-- Whether a name occurs from a point of a text on, as a word of its own and not behind a point. -/
def mentionsFrom (name : List Char) (before : Option Char) : List Char → Bool
  | [] => mentionsAt name before []
  | c :: rest => mentionsAt name before (c :: rest) || mentionsFrom name (some c) rest

/-- Whether a name occurs in a text as a word of its own and not as a member. -/
def mentions (name text : List Char) : Bool := mentionsFrom name none text

/-- Whether a text has a property once some of the blanks before it are dropped. -/
def skipBlanks (p : List Char → Bool) : List Char → Bool
  | [] => p []
  | c :: rest => p (c :: rest) || (isBlank c && skipBlanks p rest)

/-- Whether a closing bracket comes next. -/
def closesIndex (text : List Char) : Bool := (trimStart text).head? == some ']'

/-- Whether a name stands alone in square brackets somewhere in a text. -/
def indexes (name : List Char) : List Char → Bool
  | [] => false
  | c :: rest =>
    (c == '[' && skipBlanks (fun text => (dropHead? name text).any closesIndex) rest)
      || indexes name rest

/-- A text whose string literals are empty, with so many characters of a literal still to be left
out. -/
def withoutStringsFrom : Nat → List Char → List Char
  | _, [] => []
  | skip + 1, _ :: rest => withoutStringsFrom skip rest
  | 0, c :: rest =>
    if c = '"' then
      match Literal.splitBody rest with
      | some (body, _) => '"' :: '"' :: withoutStringsFrom (body.length + 1) rest
      | none => c :: withoutStringsFrom 0 rest
    else c :: withoutStringsFrom 0 rest

/-- A text whose string literals are empty. -/
def withoutStrings (text : List Char) : List Char := withoutStringsFrom 0 text

end BranchCover.Text
