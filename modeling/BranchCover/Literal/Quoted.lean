import BranchCover.Text.Blank

/-!
# String literals

A string literal stands between quotes, and a backslash takes the next character with it.

* `stringBody?`: what stands between the quotes of a string literal.
* `quote`: a text as a string literal.
-/

namespace BranchCover.Literal

/-- The body of a string literal and what follows the closing quote, behind the opening quote. A
backslash takes the next character with it, which is no line break. -/
def splitBody : List Char → Option (List Char × List Char)
  | [] => none
  | '"' :: rest => some ([], rest)
  | '\\' :: c :: rest =>
    if c = '\n' then none else (splitBody rest).map fun (body, after) => ('\\' :: c :: body, after)
  | c :: rest => if c = '\\' then none else (splitBody rest).map fun (body, after) =>
      (c :: body, after)

/-- What stands between the quotes, if a text is one string literal. One line break may follow
it. -/
def stringBody? : List Char → Option (List Char)
  | '"' :: rest =>
    match splitBody rest with
    | some (body, []) => some body
    | some (body, ['\n']) => some body
    | _ => none
  | _ => none

/-- Whether a text is one string literal. -/
def isString (text : List Char) : Bool := (stringBody? text).isSome

/-- How a character is written inside a string literal. -/
def escape (c : Char) : List Char :=
  if c = '\\' then ['\\', '\\']
  else if c = '"' then ['\\', '"']
  else if c = '\n' then ['\\', 'n']
  else if c = '\t' then ['\\', 't']
  else if c = '\r' then ['\\', 'r']
  else if c = '\x00' then ['\\', 'u', '0', '0', '0', '0']
  else if c = '$' then ['\\', '$']
  else [c]

/-- A text as a string literal. -/
def quoteChars (text : List Char) : List Char := '"' :: text.flatMap escape ++ ['"']

/-- A text as a string literal. -/
def quote (text : String) : String := String.ofList (quoteChars text.toList)

end BranchCover.Literal
