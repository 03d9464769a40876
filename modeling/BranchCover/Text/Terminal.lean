/-!
# Control sequences of terminals

A control sequence starts with the escape character and an opening bracket, goes on with digits,
semicolons and question marks, and ends with an ASCII letter. What is printed has none of them.

* `sequenceLength`: the length of the control sequence at the head of a text.
* `withoutSequences`: a text without its control sequences.
-/

namespace BranchCover.Text

/-- Whether a character may stand inside a control sequence, behind the bracket. -/
def isSequenceParameter (c : Char) : Bool := c == ';' || c == '?' || c.isDigit

/-- The length of the control sequence at the head of a text; zero if there is none. -/
def sequenceLength : List Char → Nat
  | '\x1b' :: '[' :: rest =>
    if (rest.dropWhile isSequenceParameter).head?.any Char.isAlpha then
      (rest.takeWhile isSequenceParameter).length + 3
    else 0
  | _ => 0

/-- A text without its control sequences, the next `skipped` characters being left out as well. -/
def removeSequences (skipped : Nat) : List Char → List Char
  | [] => []
  | c :: rest =>
    match skipped with
    | left + 1 => removeSequences left rest
    | 0 =>
      match sequenceLength (c :: rest) with
      | left + 1 => removeSequences left rest
      | 0 => c :: removeSequences 0 rest

/-- A text without its control sequences. -/
def withoutSequences (text : List Char) : List Char := removeSequences 0 text

end BranchCover.Text
