import BranchCover.Model.Record
import BranchCover.Value.Neutral
import BranchCover.Value.Truth

/-!
# Values that decide an atom

The value of a parameter for which an atom about it takes a wanted truth: one past the bound of a
comparison, an empty or non-empty collection, a truth.
-/

namespace BranchCover.Value

/-- The value that makes a test for emptiness take a wanted truth. -/
def emptinessValue (type predicate : String) (desired : Bool) : String :=
  let (predicate, desired) :=
    match Text.dropHead? "isNot".toList predicate.toList with
    | some rest => ("is" ++ String.ofList rest, !desired)
    | none => (predicate, desired)
  let name := TypeText.base type
  match collectionFactory? name <|> arrayFactory? name with
  | some factory =>
    if desired then factory ++ "()"
    else
      let arguments := TypeText.arguments type
      let element :=
        if name = "Map" ∨ name = "MutableMap" then
          match arguments with
          | [key, value] => neutral key ++ " to " ++ neutral value
          | first :: _ => neutral first
          | [] => "0"
        else if (arrayFactory? name).isSome then
          neutral (String.ofList (name.toList.take (name.length - "Array".length)))
        else match arguments with
          | first :: _ => neutral first
          | [] => "0"
      factory ++ "(" ++ element ++ ")"
  | none =>
    if predicate = "isBlank" ∨ predicate = "isNullOrBlank" then
      if desired then "\"   \"" else "\"non-blank\""
    else if desired then "\"\"" else "\"non-empty\""

/-- The number that makes a comparison with a number take a wanted truth. -/
def boundary (operator : Comparator) (number : Number) (desired : Bool) : Number :=
  match operator with
  | .greater => number.offset (if desired then 1 else -1)
  | .atLeast => if desired then number else number.offset (-1)
  | .less => number.offset (if desired then -1 else 1)
  | _ => if desired then number else number.offset 1

/-- A number as a value of a type; past a bound of an integral type, the constant for that bound. -/
def withinBounds (number : Number) (type : String) : Except Number.Error String :=
  let name := TypeText.base type
  match TypeText.integralBounds? name with
  | some (least, greatest) =>
    if number.compare (.integer least) = .lt then .ok (name ++ ".MIN_VALUE")
    else if number.compare (.integer greatest) = .gt then .ok (name ++ ".MAX_VALUE")
    else number.format type
  | none => number.format type

/-- A type without the question marks at its end. -/
def withoutNull (type : String) : String :=
  String.ofList (Text.dropEndWhile (· == '?') type.toList)

/-- The value that makes a comparison take a wanted truth. A difference is an equality that is not
wanted. -/
def comparisonValue (type : String) (operator : Comparator) (operand : String) (desired : Bool) :
    Except Number.Error String :=
  let (operator, desired) :=
    if operator = .notEqual then (.equal, !desired) else (operator, desired)
  let name := TypeText.base type
  if operand = "null" then
    .ok (if operator = .equal ∧ desired then "null" else neutral (withoutNull type))
  else if operator = .equal ∧ name = "Boolean" ∧ (operand = "true" ∨ operand = "false") then
    .ok (if desired then operand else if operand = "true" then "false" else "true")
  else match (if operator = .equal then Literal.stringBody? operand.toList else none) with
    | some body =>
      .ok (if desired then operand else String.ofList ('"' :: body ++ "Different\"".toList))
    | none => do
      match ← Number.parse operand with
      | some number =>
        if name ∈ TypeText.numericNames then withinBounds (boundary operator number desired) type
        else return neutral type
      | none => return neutral type

/-- The value of a parameter for which an atom takes a wanted truth, or the neutral value where no
rule gives one. An operand that is a bound name stands for the value bound to it. -/
def forAtom (parameter : Parameter) (shape : Option AtomShape) (desired : Bool) (known : Bindings) :
    Except Number.Error String :=
  let type := parameter.typeName
  match shape with
  | none => .ok (neutral type)
  | some (.boolean _) =>
    .ok (if TypeText.base type = "Boolean" then (if desired then "true" else "false")
         else neutral type)
  | some (.emptiness _ predicate) => .ok (emptinessValue type predicate desired)
  | some (.comparison _ operator operand) =>
    let operand := trimmed (operand.getD "")
    comparisonValue type (operator.getD (.unknown "")) ((known.get? operand).getD operand) desired

end BranchCover.Value
