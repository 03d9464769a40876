import BranchCover.Text.Blank
import BranchCover.Text.Digit

/-!
# Number literals

A number literal is an optional sign, digits that underscores may divide, an optional fraction and
an optional type suffix: `-12`, `1_000L`, `2.5f`.

* `NumberLiteral.read?`: the parts of a number literal.
* `isNumber`: whether a text is a number literal.
* `IntegerLiteral.split?`: an integer of plain digits at the head of a text.
-/

namespace BranchCover.Literal

/-- The parts of a number literal. -/
structure NumberLiteral where
  /-- Whether a minus sign stands in front. -/
  negative : Bool
  /-- The digits before the point, with the underscores between them. -/
  whole : List Char
  /-- The digits behind the point; empty if there is no point. -/
  fraction : List Char
  /-- The type suffix. -/
  suffix : Option Char
  deriving DecidableEq, Repr

/-- Whether a character may stand behind the first digit of the whole part. -/
def isWholeDigit (c : Char) : Bool := Text.isDecimal c || c == '_'

/-- The letters that name the type of a number literal. -/
def numberSuffixes : List Char := ['L', 'l', 'F', 'f', 'D', 'd']

/-- The suffixes that make a number literal floating. -/
def floatingSuffixes : List Char := ['F', 'f', 'D', 'd']

/-- A fraction at the head of a text, and the rest. -/
def splitFraction : List Char → List Char × List Char
  | '.' :: rest =>
    match rest.takeWhile Text.isDecimal with
    | [] => ([], '.' :: rest)
    | digits => (digits, rest.dropWhile Text.isDecimal)
  | text => ([], text)

/-- The parts of an unsigned number literal, with the sign given. -/
def readUnsigned? (negative : Bool) (text : List Char) : Option NumberLiteral :=
  match text with
  | [] => none
  | first :: _ =>
    if Text.isDecimal first then
      let whole := text.takeWhile isWholeDigit
      let (fraction, rest) := splitFraction (text.dropWhile isWholeDigit)
      match rest with
      | [] => some { negative, whole, fraction, suffix := none }
      | [c] =>
        if numberSuffixes.contains c then some { negative, whole, fraction, suffix := some c }
          else none
      | _ => none
    else none

/-- The parts of a number literal. -/
def NumberLiteral.read? : List Char → Option NumberLiteral
  | '-' :: rest => readUnsigned? true rest
  | text => readUnsigned? false text

/-- Whether a text is a number literal. -/
def isNumber (text : List Char) : Bool := (NumberLiteral.read? text).isSome

/-- An integer of plain digits with an optional minus sign, as it is written. -/
structure IntegerLiteral where
  /-- Whether a minus sign stands in front. -/
  negative : Bool
  digits : List Char
  deriving DecidableEq, Repr

/-- The text of an integer literal. -/
def IntegerLiteral.text (literal : IntegerLiteral) : List Char :=
  if literal.negative then '-' :: literal.digits else literal.digits

/-- The integer literal at the head of a text, with the sign given, and the rest. -/
def splitDigits? (negative : Bool) (text : List Char) : Option (IntegerLiteral × List Char) :=
  match text.takeWhile Text.isDecimal with
  | [] => none
  | digits => some ({ negative, digits }, text.dropWhile Text.isDecimal)

/-- The integer literal at the head of a text, and the rest. -/
def IntegerLiteral.split? : List Char → Option (IntegerLiteral × List Char)
  | '-' :: rest => splitDigits? true rest
  | text => splitDigits? false text

end BranchCover.Literal
