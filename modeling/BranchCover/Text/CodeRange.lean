/-!
# Ranges of code points

Tables of character classes are lists of closed ranges of code points.
-/

namespace BranchCover.Text

/-- A closed range of code points: its first and its last. -/
abbrev CodeRange := Nat × Nat

/-- Whether some range holds the code point of a character. -/
def inRanges (ranges : List CodeRange) (c : Char) : Bool :=
  ranges.any fun range => range.1 ≤ c.toNat && c.toNat ≤ range.2

end BranchCover.Text
