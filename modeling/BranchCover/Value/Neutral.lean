import BranchCover.TypeText

/-!
# Neutral values

The plain default of each type, as source text: zeros, empty texts and collections, lambdas that
ignore their parameters, `null`, or a mock.
-/

namespace BranchCover.Value

/-- The value of a type about which nothing is known. -/
def mock : String := "mock()"

/-- A lambda that ignores so many parameters, with a body that is empty or starts with a blank. -/
def lambda (parameters : Nat) (body : String) : String :=
  match parameters with
  | 0 => if body = "" then "\x7b \x7d" else "\x7b" ++ body ++ " \x7d"
  | n + 1 => "\x7b _" ++ String.join (List.replicate n ", _") ++ " ->" ++ body ++ " \x7d"

/-- The function that makes collections of a type. -/
def collectionFactory? (name : String) : Option String := TypeText.collectionFactories.lookup name

/-- The function that makes arrays of a type. -/
def arrayFactory? (name : String) : Option String := TypeText.arrayFactories.lookup name

/-- The neutral value of a type that is no function type. -/
def plainNeutral (type : String) : String :=
  let name := TypeText.base type
  if name ∈ TypeText.integerNames then "0"
  else if name ∈ TypeText.longNames then "0L"
  else if name = "Double" then "0.0"
  else if name = "Float" then "0.0f"
  else if name = "Boolean" then "false"
  else if name ∈ TypeText.textualNames then "\"\""
  else if name = "Char" then "'a'"
  else if TypeText.isNullable type then "null"
  else if name ∈ ["List", "Collection", "Iterable"] then "emptyList()"
  else if name = "Set" then "emptySet()"
  else if name = "Map" then "emptyMap()"
  else match collectionFactory? name with
    | some factory => factory ++ "()"
    | none =>
      match arrayFactory? name with
      | some factory => factory ++ "()"
      | none =>
        if name = "Array" then "emptyArray()" else if name = "Any" then "Any()" else mock

/-- The neutral value of a type in which function types return function types at most so often. -/
def neutralWithin : Nat → String → String
  | 0, _ => mock
  | depth + 1, type =>
    if type = "" then mock
    else if TypeText.isFunction type then
      let (parameters, result) := TypeText.functionParts type
      let resultName := TypeText.base result
      lambda parameters.length
        (if resultName = "Unit" ∨ resultName = "" then "" else " " ++ neutralWithin depth result)
    else plainNeutral type

/-- The neutral value of a type. A result type is shorter than the function type it is part of. -/
def neutral (type : String) : String := neutralWithin (type.length + 1) type

end BranchCover.Value
