import BranchCover.Text.Printable

/-!
# Texts in messages

A message shows a text between quotes, on one line and with nothing invisible in it.

* `escapeShown`: how a character is shown.
* `shown`: a text as a message shows it.
-/

namespace BranchCover.Text

/-- The last `width` hexadecimal digits of a number. -/
def hexDigits : Nat → Nat → List Char
  | 0, _ => []
  | width + 1, n => hexDigits width (n / 16) ++ [Nat.digitChar (n % 16)]

/-- A character by the number of its code point. -/
def escapeCode (n : Nat) : List Char :=
  if n < 0x100 then '\\' :: 'x' :: hexDigits 2 n
  else if n < 0x10000 then '\\' :: 'u' :: hexDigits 4 n
  else '\\' :: 'U' :: hexDigits 8 n

/-- How a character is shown between two marks. -/
def escapeShown (mark c : Char) : List Char :=
  if c = '\\' ∨ c = mark then ['\\', c]
  else if c = '\n' then ['\\', 'n']
  else if c = '\r' then ['\\', 'r']
  else if c = '\t' then ['\\', 't']
  else if isPrintable c then [c]
  else escapeCode c.toNat

/-- The mark around a text: an apostrophe, unless the text has one and no quotation mark. -/
def shownMark (text : List Char) : Char :=
  if text.contains '\'' && !text.contains '"' then '"' else '\''

/-- A text as a message shows it. -/
def shown (text : String) : String :=
  let mark := shownMark text.toList
  String.ofList (mark :: text.toList.flatMap (escapeShown mark) ++ [mark])

end BranchCover.Text
