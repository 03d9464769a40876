import BranchCover.Bindings
import BranchCover.Condition.Shape
import BranchCover.Literal.Quoted
import BranchCover.Number.Basic

/-!
# The truth of an atom

Whether an atom holds when its subject has a given value, as far as literals can tell. Reading a
number may fail.
-/

namespace BranchCover

/-- Whether an order is what an operator asks for; an unknown operator tells nothing. -/
def Comparator.holds? : Comparator → Ordering → Option Bool
  | greater, order => some (order == .gt)
  | atLeast, order => some (order != .lt)
  | less, order => some (order == .lt)
  | atMost, order => some (order != .gt)
  | equal, order => some (order == .eq)
  | notEqual, order => some (order != .eq)
  | unknown _, _ => none

namespace Value

/-- Whether a text is a truth, `null` or a string literal, which are equal only as texts. -/
def isSymbol (text : String) : Bool :=
  text == "true" || text == "false" || text == "null" || Literal.isString text.toList

/-- The truth of a comparison of two literals that are no numbers, which only tell equality. -/
def compareSymbols? (operator : Comparator) (value operand : String) : Option Bool :=
  if isSymbol value && isSymbol operand then
    if operator = .equal then some (value == operand)
    else if operator = .notEqual then some (value != operand)
    else none
  else none

/-- The truth of a comparison of two texts: of numbers by value, of other literals by equality. An
unknown operator tells nothing, whatever the texts are. -/
def compareTexts (operator : Comparator) (value operand : String) :
    Except Number.Error (Option Bool) :=
  match operator with
  | .unknown _ => .ok none
  | _ => do
    let left ← Number.ofConstant value
    let right ← Number.ofConstant operand
    match left, right with
    | some left, some right => return operator.holds? (left.compare right)
    | _, _ => return compareSymbols? operator value operand

/-- The truth of an atom whose subject is bound to a value, if the texts alone tell it. An operand
that is a bound name stands for the value bound to it. -/
def atomHolds (shape : AtomShape) (value : String) (known : Bindings) :
    Except Number.Error (Option Bool) :=
  let value := trimmed value
  match shape with
  | .boolean _ =>
    .ok (if value = "true" then some true else if value = "false" then some false else none)
  | .emptiness _ _ => .ok none
  | .comparison _ operator operand =>
    match operator with
    | none => .ok none
    | some operator =>
      let operand := trimmed (operand.getD "")
      compareTexts operator value ((known.get? operand).elim operand trimmed)

end Value

end BranchCover
