import BranchCover.Text.Scan

/-!
# Globs

A glob is matched against a whole text: `*` stands for any text, `?` for any character, and a set
`[...]` for one of its characters or, behind `[!`, for one that is not among them. A bracket that is
not closed stands for itself.

* `Glob.parse`: the items of a glob.
* `Glob.accepts`: whether a text is made of items.
* `globMatch`: whether a text matches a glob.
-/

namespace BranchCover

/-- One item of a glob. -/
inductive GlobItem where
  /-- Any text. -/
  | anyText
  /-- Any one character. -/
  | anyChar
  /-- One given character. -/
  | char (c : Char)
  /-- A character in one of some ranges, or in none of them. -/
  | set (negated : Bool) (ranges : List (Char × Char))
  deriving DecidableEq, Repr

namespace Glob

/-! ### Sets -/

/-- The inside of a set and what follows its bracket, behind the first character of the inside. -/
def closeSet (inside : List Char) : List Char → Option (List Char)
  | [] => none
  | c :: rest => if c = ']' then some inside.reverse else closeSet (c :: inside) rest

/-- The inside of the set at the head of a text, behind the opening bracket. A closing bracket at
its head, or behind the mark of negation there, belongs to it. -/
def setInside? : List Char → Option (List Char)
  | '!' :: ']' :: rest => closeSet [']', '!'] rest
  | '!' :: rest => closeSet ['!'] rest
  | ']' :: rest => closeSet [']'] rest
  | text => closeSet [] text

/-- The pieces of a set between the hyphens that make a range, with the piece under way given
reversed. The next `held` characters make none. -/
def rangePieces (held : Nat) (piece : List Char) : List Char → List (List Char)
  | [] => [piece.reverse]
  | c :: rest =>
    match held with
    | held + 1 => rangePieces held (c :: piece) rest
    | 0 =>
      if c = '-' then piece.reverse :: rangePieces 2 [] rest else rangePieces 0 (c :: piece) rest

/-- The pieces of a set. One hyphen at the end makes no range. -/
def pieces (inside : List Char) : List (List Char) :=
  let found := rangePieces (if inside.head? = some '!' then 2 else 1) [] inside
  match found.reverse with
  | [] :: last :: before => ((last ++ ['-']) :: before).reverse
  | _ => found

/-- Two neighbouring pieces become one if the range between them would be empty. -/
def joinEmptyRange (first : List Char) (later : List (List Char)) : List (List Char) :=
  match later with
  | second :: rest =>
    match first.getLast?, second.head? with
    | some a, some b =>
      if b < a then (first.dropLast ++ second.tail) :: rest else first :: second :: rest
    | _, _ => first :: second :: rest
  | [] => [first]

/-- The pieces of a set without empty ranges, from the last to the first. -/
def dropEmptyRanges (pieces : List (List Char)) : List (List Char) :=
  pieces.foldr joinEmptyRange []

/-- The ranges of pieces: every character by itself, and one range between neighbouring pieces. Next
to an empty piece the hyphen stands for itself. -/
def rangesOf : List (List Char) → List (Char × Char)
  | [] => []
  | [piece] => piece.map fun c => (c, c)
  | piece :: next :: rest =>
    (piece.map fun c => (c, c))
      ++ (match piece.getLast?, next.head? with
          | some a, some b => [(a, b)]
          | _, _ => [('-', '-')])
      ++ rangesOf (next :: rest)

/-- The item of a set. -/
def setItem (inside : List Char) : GlobItem :=
  match dropEmptyRanges (pieces inside) with
  | ('!' :: piece) :: rest => .set true (rangesOf (piece :: rest))
  | found => .set false (rangesOf found)

/-! ### Items -/

/-- The items of a text whose first `skip` characters are read already. -/
def parseFrom : Nat → List Char → List GlobItem
  | _, [] => []
  | skip + 1, _ :: rest => parseFrom skip rest
  | 0, c :: rest =>
    if c = '*' then .anyText :: parseFrom 0 rest
    else if c = '?' then .anyChar :: parseFrom 0 rest
    else if c = '[' then
      match setInside? rest with
      | some inside => setItem inside :: parseFrom (inside.length + 1) rest
      | none => .char '[' :: parseFrom 0 rest
    else .char c :: parseFrom 0 rest

/-- The items of a glob. -/
def parse (pattern : List Char) : List GlobItem := parseFrom 0 pattern

/-! ### Matching -/

/-- Whether one character is an item. -/
def admits : GlobItem → Char → Bool
  | .anyText, _ => false
  | .anyChar, _ => true
  | .char d, c => c == d
  | .set negated ranges, c =>
    (ranges.any fun (first, last) => first ≤ c && c ≤ last) != negated

/-- A text and all that remains of it behind a beginning. -/
def endings : List Char → List (List Char)
  | [] => [[]]
  | c :: rest => (c :: rest) :: endings rest

/-- Whether a text is made of items. -/
def accepts : List GlobItem → List Char → Bool
  | [], text => text.isEmpty
  | .anyText :: items, text => (endings text).any (accepts items)
  | item :: items, c :: rest => admits item c && accepts items rest
  | _ :: _, [] => false

end Glob

/-- Whether a text matches a glob. -/
def globMatch (text pattern : List Char) : Bool := Glob.accepts (Glob.parse pattern) text

end BranchCover
