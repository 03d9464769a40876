import BranchCover.Text.Blank

/-!
# Lines

* `lines`: the pieces of a text between its line feeds.
* `normalizeNewlines`: a text in which every line break is a line feed.
* `splitLines`: the lines of a text that any of the line boundaries ends.
-/

namespace BranchCover.Text

/-- The pieces of a text between its line feeds. -/
def lines (text : List Char) : List (List Char) := splitAtChars (· == '\n') text

/-- A text in which a carriage return, with or without a line feed behind it, is a line feed. -/
def normalizeNewlines : List Char → List Char
  | [] => []
  | '\r' :: '\n' :: rest => '\n' :: normalizeNewlines rest
  | c :: rest => (if c = '\r' then '\n' else c) :: normalizeNewlines rest

/-- Whether a character ends a line. -/
def isLineEnd (c : Char) : Bool :=
  (10 ≤ c.toNat && c.toNat ≤ 13) || (28 ≤ c.toNat && c.toNat ≤ 30) || c.toNat == 0x85
    || c.toNat == 0x2028 || c.toNat == 0x2029

/-- The lines of a text, with the line under way given reversed; an empty last line is left out. -/
def splitLinesFrom (line : List Char) : List Char → List (List Char)
  | [] => if line.isEmpty then [] else [line.reverse]
  | '\r' :: '\n' :: rest => line.reverse :: splitLinesFrom [] rest
  | c :: rest =>
    if isLineEnd c then line.reverse :: splitLinesFrom [] rest else splitLinesFrom (c :: line) rest

/-- The lines of a text that any of the line boundaries ends. -/
def splitLines (text : List Char) : List (List Char) := splitLinesFrom [] text

end BranchCover.Text
