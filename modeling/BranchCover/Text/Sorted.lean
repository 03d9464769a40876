/-!
# Sorted sets of texts

Texts in the order of their code points, none twice.
-/

namespace BranchCover.Text

/-- Puts a text into its place among sorted texts, unless it is there. -/
def insertSorted (text : String) : List String → List String
  | [] => [text]
  | first :: rest =>
    if text < first then text :: first :: rest
    else if text = first then first :: rest
    else first :: insertSorted text rest

/-- The different texts of a list, sorted. -/
def sortedSet (texts : List String) : List String := texts.foldr insertSorted []

end BranchCover.Text
