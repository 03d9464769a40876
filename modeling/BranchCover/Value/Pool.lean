import BranchCover.CallSite
import BranchCover.Literal.Quoted
import BranchCover.Number.Basic
import BranchCover.Random.Twister
import BranchCover.Value.Neutral

/-!
# Boundary values

Random values from pools of boundary values, and the values of variadic parameters.

* `pool`: a value of a type, with collections nested at most two deep.
* `variadic`: the values of a variadic parameter, taken from a call if one was seen.
-/

namespace BranchCover.Value

/-- The depth from which on collections have no elements. -/
def maxDepth : Int := 2

/-- The bound of random integers. -/
def randomBound : Int := 1000

/-- Draws so many values, one after another. -/
def drawMany (draw : Random α) : Nat → Random (List α)
  | 0 => pure []
  | count + 1 => do
    let first ← draw
    let rest ← drawMany draw count
    return first :: rest

/-- A random integer as text. -/
def randomInt : Random String := do
  let n ← Twister.between (-randomBound) (randomBound + 1)
  return Number.intText n

/-- The pool of an integral type without a literal suffix. -/
def integerPool (name : String) : Random (List String) :=
  let common := ["0", "1", "-1", name ++ ".MAX_VALUE", name ++ ".MIN_VALUE"]
  if name = "Int" then do
    let random ← randomInt
    return common ++ ["Int.MAX_VALUE - 1", "Int.MIN_VALUE + 1", random]
  else pure common

/-- The pool of `Long`. -/
def longPool : Random (List String) := do
  let random ← randomInt
  return ["0L", "1L", "-1L", "Long.MAX_VALUE", "Long.MIN_VALUE", "Long.MAX_VALUE - 1",
    "Long.MIN_VALUE + 1", random ++ "L"]

/-- A random floating number in an interval: the lower end plus a part of the width. -/
def randomFloating (low high : Int) : Random Binary64 := do
  let n ← Twister.unit
  let part := Binary64.ofRatio false n Twister.unitSize
  return (Binary64.ofInt low).add ((Binary64.ofInt (high - low)).mul part)

/-- The pool of a floating type; its random number has two places. -/
def floatingPool (name : String) : Random (List String) := do
  let suffix := if name = "Float" then "f" else ""
  let random ← randomFloating (-randomBound) randomBound
  return ["0.0" ++ suffix, "1.0" ++ suffix, "-1.0" ++ suffix, name ++ ".MAX_VALUE",
    name ++ ".MIN_VALUE", name ++ ".NaN", name ++ ".POSITIVE_INFINITY",
    name ++ ".NEGATIVE_INFINITY", (random.roundPlaces 2).text ++ suffix]

/-- The ASCII letters, the lower-case ones first. -/
def asciiLetters : List Char := "abcdefghijklmnopqrstuvwxyzABCDEFGHIJKLMNOPQRSTUVWXYZ".toList

/-- The pool of the textual types; its random text has one to ten letters. -/
def textPool : Random (List String) := do
  let length ← Twister.between 1 11
  let letters ← drawMany (Twister.choose 'a' asciiLetters) length.toNat
  return ["\"\"", "\" \"", Literal.quote (String.ofList letters), "\"a\"", "\"\\n\"", "\"\\t\"",
    "\"\\\"\"", "\"\\u0000\"", "\"a\".repeat(1000)"]

/-- The pool of `Char`. -/
def charPool : List String := ["'a'", "'Z'", "'0'", "' '", "'\\n'"]

/-- A call of a factory. -/
def callFactory (factory : String) (elements : List String) : String :=
  factory ++ "(" ++ ", ".intercalate elements ++ ")"

/-- Up to two elements, and none at the greatest depth. -/
def elements (draw : Random String) (depth : Int) : Random (List String) :=
  if maxDepth ≤ depth then pure []
  else do
    let count ← Twister.between 0 3
    drawMany draw count.toNat

/-- A collection of a type; `draw` gives a value of an element type one level deeper. -/
def collection (type name : String) (depth : Int) (draw : String → Random String) : Random String :=
  let factory := (collectionFactory? name).getD "listOf"
  match TypeText.arguments type with
  | arguments =>
    if name = "Map" ∨ name = "MutableMap" then
      match arguments with
      | [key, value] =>
        if maxDepth ≤ depth then pure (neutral type)
        else do
          let key ← draw key
          let value ← draw value
          return callFactory factory [key ++ " to " ++ value]
      | _ => pure (neutral type)
    else match arguments with
      | [] => pure (neutral type)
      | element :: _ => do
        let members ← elements (draw element) depth
        if members.isEmpty ∧ (factory = "listOf" ∨ factory = "setOf") then return neutral type
        return callFactory factory members

/-- A value from the pool of a type at a depth of collections. `part` gives the values of the types
that the type is taken apart into. -/
def poolStep (part : String → Int → Random String) (type : String) (depth : Int) : Random String :=
  if type = "" then pure mock
  else if TypeText.isNullable type then do
    if ← Twister.chance 1 then return "null"
    part (String.ofList (Text.trim type.toList).dropLast) depth
  else if TypeText.isFunction type then pure (neutral type)
  else
    let name := TypeText.base type
    if name ∈ TypeText.integerNames then do
      Twister.choose mock (← integerPool name)
    else if name ∈ TypeText.longNames then do
      Twister.choose mock (← longPool)
    else if name ∈ TypeText.floatingNames then do
      Twister.choose mock (← floatingPool name)
    else if name ∈ TypeText.textualNames then do
      Twister.choose mock (← textPool)
    else if name = "Boolean" then Twister.choose mock ["true", "false"]
    else if name = "Char" then Twister.choose mock charPool
    else if (collectionFactory? name).isSome ∨ name = "Collection" ∨ name = "Iterable" then
      collection type name depth fun element => part element (depth + 1)
    else match arrayFactory? name with
      | some factory => do
        let element := String.ofList (name.toList.take (name.length - "Array".length))
        return callFactory factory (← elements (part element (depth + 1)) depth)
      | none =>
        if name = "Array" then
          match TypeText.arguments type with
          | [] => pure "emptyArray()"
          | element :: _ =>
            if maxDepth ≤ depth then pure "emptyArray()"
            else do
              return callFactory "arrayOf" (← elements (part element (depth + 1)) depth)
        else pure (neutral type)

/-- A value from the pool of a type at a depth of collections, where types are taken apart at most
so often. -/
def poolWithin : Nat → String → Int → Random String
  | 0 => fun _ _ => pure mock
  | fuel + 1 => poolStep (poolWithin fuel)

/-- A value from the pool of a type at a depth of collections. Every part of a type is shorter than
the type. -/
def pool (type : String) (depth : Int) : Random String := poolWithin (type.length + 1) type depth

/-- One to three values from the pool of a type. -/
def poolMany (type : String) : Random (List String) := do
  let count ← Twister.between 1 4
  drawMany (pool type 0) count.toNat

/-- The values of the parameter at a place of a function, which is variadic: the arguments of the
first call that passes any, or else values from the pool. A negative place counts from the end. -/
def variadic (sites : CallSites) (function : FunctionDecl) (place : Int) :
    Option (Random (List String)) :=
  (Place.get? function.parameters place).map fun parameter =>
    match sites.variadicTail? function.name place (function.parameters.length - place - 1) with
    | some (first :: rest) => pure (first :: rest)
    | _ => poolMany parameter.typeName

end BranchCover.Value
