import BranchCover.Condition.Basic

/-!
# Argument lists

An argument list is taken apart at the commas outside brackets and outside string and character
literals: `1, listOf(2, 3), "a,b"` has three arguments.
-/

namespace BranchCover.ArgumentList

open Condition (Quoting isQuote)

/-- Whether a character opens a bracket. -/
def isOpening (c : Char) : Bool := c == '(' || c == '[' || c == '\x7b'

/-- Whether a character closes a bracket. -/
def isClosing (c : Char) : Bool := c == ')' || c == ']' || c == '\x7d'

/-- The last argument, unless it is blank. `read` is its text, reversed. -/
def closeLast (read : List Char) : List (List Char) :=
  match Text.trim read.reverse with
  | [] => []
  | text => [text]

/-- The arguments from a point of the list on. `read` is the text of the one under way, reversed. A
closing bracket with no opening one counts as text. -/
def scan (read : List Char) (depth : Nat) : Quoting → List Char → List (List Char)
  | _, [] => closeLast read
  | .escaped mark, c :: rest => scan (c :: read) depth (.inside mark) rest
  | .inside mark, c :: rest => scan (c :: read) depth (.step mark c) rest
  | .outside, c :: rest =>
    if isQuote c then scan (c :: read) depth (.inside c) rest
    else if isOpening c then scan (c :: read) (depth + 1) .outside rest
    else if isClosing c then scan (c :: read) (depth - 1) .outside rest
    else if c = ',' ∧ depth = 0 then Text.trim read.reverse :: scan [] 0 .outside rest
    else scan (c :: read) depth .outside rest

/-- The arguments of a list, trimmed; a blank one is kept unless it is the last. -/
def split (text : String) : List String :=
  (scan [] 0 .outside text.toList).map String.ofList

end BranchCover.ArgumentList
