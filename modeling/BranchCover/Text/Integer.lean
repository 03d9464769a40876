import BranchCover.Text.Blank
import BranchCover.Text.Digit
import BranchCover.Text.Scan

/-!
# Integers in texts

An integer is written with an optional sign and digits of any script; one underscore may stand
between two digits, and blanks around the whole. An integer that is typed has ASCII digits only, but
zeros may stand in front of it and a fraction of zeros behind it.

* `integer?`: the integer that a text writes.
* `typedInteger?`: the integer that a typed text means.
-/

namespace BranchCover.Text

/-- Whether a character may stand around an integer: the separators U+001C to U+001F may not. -/
def isIntegerBlank (c : Char) : Bool := isBlank c && !(28 ≤ c.toNat && c.toNat ≤ 31)

/-- The digits of a text without the underscores between them, with those before given reversed. -/
def separatedDigits? (digits : List Char) : List Char → Option (List Char)
  | [] => if digits.isEmpty then none else some digits.reverse
  | '_' :: c :: rest =>
    if isDecimal c && !digits.isEmpty then separatedDigits? (c :: digits) rest else none
  | c :: rest => if isDecimal c then separatedDigits? (c :: digits) rest else none

/-- The natural number that a text of digits writes. -/
def natural? (text : List Char) : Option Nat :=
  (separatedDigits? [] text).bind fun digits =>
    if digits.length ≤ maxIntegerDigits then some (digitsValue digits) else none

/-- A text without the blanks that may stand around an integer. -/
def trimInteger (text : List Char) : List Char :=
  dropEndWhile isIntegerBlank (text.dropWhile isIntegerBlank)

/-- The integer that a text writes. -/
def integer? (text : String) : Option Int :=
  match trimInteger text.toList with
  | '-' :: rest => (natural? rest).map fun n => -(n : Int)
  | '+' :: rest => (natural? rest).map Int.ofNat
  | rest => (natural? rest).map Int.ofNat

/-! ### Typed integers -/

/-- A text without a plus sign in front, unless a minus sign follows. -/
def withoutPlus : List Char → List Char
  | '+' :: '-' :: rest => '+' :: '-' :: rest
  | '+' :: rest => rest
  | text => text

/-- What follows zeros and underscores, the last of which is given: digits; or a point, which keeps
the character before it. If nothing follows, that character is all. -/
def behindZeros? (last : Char) : List Char → Option (List Char)
  | [] => some [last]
  | c :: rest =>
    if c = '0' ∨ c = '_' then behindZeros? c rest
    else if c.isDigit then some (c :: rest)
    else if c = '.' then some (last :: c :: rest)
    else none

/-- A text that starts with a digit, without the zeros in front. -/
def withoutZeros? : List Char → Option (List Char)
  | [] => none
  | c :: rest =>
    if c = '0' then behindZeros? c rest
    else if c.isDigit then some (c :: rest)
    else none

/-- A text without a fraction of zeros behind it. -/
def withoutZeroFraction (text : List Char) : List Char :=
  match splitFirst? '.' text with
  | some (whole, fraction) =>
    if !fraction.isEmpty && fraction.all (· == '0') then whole else text
  | none => text

/-- A text without its underscores, if each of them stands alone between two other characters. -/
def withoutUnderscores (text : List Char) : List Char :=
  if text.head? = some '_' ∨ text.getLast? = some '_' ∨ contains ['_', '_'] text then text
  else text.filter (· != '_')

/-- The natural number of ASCII digits, of which there are at least one and at most the given
number. -/
def plainNatural? (limit : Nat) (digits : List Char) : Option Nat :=
  if !digits.isEmpty && digits.length ≤ limit && digits.all Char.isDigit then
    some (digitsValue digits)
  else none

/-- The natural number that a typed text without a sign means, with the given number of digits at
most. -/
def typedNatural? (limit : Nat) (text : List Char) : Option Nat :=
  (withoutZeros? text).bind fun text =>
    plainNatural? limit (withoutUnderscores (withoutZeroFraction text))

/-- The integer that a typed text means. A minus sign takes the room of one digit. -/
def typedInteger? (text : String) : Option Int :=
  match withoutPlus (trimInteger text.toList) with
  | '-' :: rest => (typedNatural? (maxIntegerDigits - 1) rest).map fun n => -(n : Int)
  | rest => (typedNatural? maxIntegerDigits rest).map Int.ofNat

end BranchCover.Text
