import BranchCover.Text.CodeRange

/-!
# Blanks

White space of every script, with the separators U+001C to U+001F, and what is done with it:
trimming, skipping and taking a text apart into its words.

* `isBlank`: the blanks.
* `trimStart`, `trimEnd`, `trim`: a text without the blanks around it.
* `words`: the maximal runs without a blank.
-/

namespace BranchCover.Text

/-- The blanks beyond ASCII. -/
def blankRanges : List CodeRange :=
  [(0x85, 0x85), (0xa0, 0xa0), (0x1680, 0x1680), (0x2000, 0x200a), (0x2028, 0x2029),
   (0x202f, 0x202f), (0x205f, 0x205f), (0x3000, 0x3000)]

/-- White space of any script, or one of the separators U+001C to U+001F. -/
def isBlank (c : Char) : Bool :=
  if c.toNat < 128 then (9 ≤ c.toNat && c.toNat ≤ 13) || (28 ≤ c.toNat && c.toNat ≤ 32)
  else inRanges blankRanges c

/-- A text without the characters of a class at its end. -/
def dropEndWhile (p : Char → Bool) : List Char → List Char
  | [] => []
  | c :: rest =>
    match dropEndWhile p rest with
    | [] => if p c then [] else [c]
    | kept => c :: kept

/-- A text without the blanks before it. -/
def trimStart (text : List Char) : List Char := text.dropWhile isBlank

/-- A text without the blanks after it. -/
def trimEnd (text : List Char) : List Char := dropEndWhile isBlank text

/-- A text without the blanks around it. -/
def trim (text : List Char) : List Char := trimEnd (trimStart text)

/-- Whether a text has no character but blanks. -/
def isAllBlank (text : List Char) : Bool := text.all isBlank

/-- Takes a text apart at the characters of a class, with the piece under way given reversed. -/
def splitFrom (p : Char → Bool) (piece : List Char) : List Char → List (List Char)
  | [] => [piece.reverse]
  | c :: rest => if p c then piece.reverse :: splitFrom p [] rest else splitFrom p (c :: piece) rest

/-- The pieces between the characters of a class: one more than there are such characters. -/
def splitAtChars (p : Char → Bool) (text : List Char) : List (List Char) := splitFrom p [] text

/-- The maximal runs without a character of a class. -/
def fields (p : Char → Bool) (text : List Char) : List (List Char) :=
  (splitAtChars p text).filter (!·.isEmpty)

/-- The maximal runs without a blank. -/
def words (text : List Char) : List (List Char) := fields isBlank text

end BranchCover.Text

namespace BranchCover

/-- A string without the blanks around it. -/
def trimmed (s : String) : String := String.ofList (Text.trim s.toList)

end BranchCover
