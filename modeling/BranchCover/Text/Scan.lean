/-!
# Matching at the head of a text

* `dropHead?`: what follows a given beginning.
* `startsWith`, `endsWith`, `contains`: occurrence of one text in another.
* `splitFirst?`, `splitLast?`: a text taken apart at the first or last occurrence of a character.
-/

namespace BranchCover.Text

/-- What follows a given beginning, if a text has it. -/
def dropHead? : List Char → List Char → Option (List Char)
  | [], text => some text
  | _ :: _, [] => none
  | p :: pattern, c :: text => if p = c then dropHead? pattern text else none

/-- Whether a text begins with another. -/
def startsWith (text pattern : List Char) : Bool := (dropHead? pattern text).isSome

/-- Whether a text ends with another. -/
def endsWith (text pattern : List Char) : Bool := startsWith text.reverse pattern.reverse

/-- Whether a text occurs in another. -/
def contains (pattern : List Char) : List Char → Bool
  | [] => pattern.isEmpty
  | c :: rest => startsWith (c :: rest) pattern || contains pattern rest

/-- A text taken apart at the first occurrence of a character. -/
def splitFirst? (mark : Char) : List Char → Option (List Char × List Char)
  | [] => none
  | c :: rest =>
    if c = mark then some ([], rest)
    else (splitFirst? mark rest).map fun (before, after) => (c :: before, after)

/-- A text taken apart at the last occurrence of a character. -/
def splitLast? (mark : Char) : List Char → Option (List Char × List Char)
  | [] => none
  | c :: rest =>
    match splitLast? mark rest with
    | some (before, after) => some (c :: before, after)
    | none => if c = mark then some ([], rest) else none

/-- What stands behind the last occurrence of a character, or the whole text. -/
def afterLast (mark : Char) (text : List Char) : List Char :=
  match splitLast? mark text with
  | some (_, after) => after
  | none => text

/-- A text without its first and its last character. -/
def innerText (text : List Char) : List Char := text.tail.dropLast

/-- Texts written one after another with a separator between them. -/
def joinWith (separator : List Char) : List (List Char) → List Char
  | [] => []
  | [text] => text
  | text :: rest => text ++ separator ++ joinWith separator rest

end BranchCover.Text
