import BranchCover.Literal.Number
import BranchCover.Number.Shortest
import BranchCover.TypeText

/-!
# Numbers

The value of a number literal is an integer or a floating number. An integer is read and written
only up to a number of digits; a floating number has no such limit.

* `Number.parse`: the value of a number literal.
* `Number.ofConstant`: the value of a literal or of a constant such as `Int.MAX_VALUE`.
* `Number.format`: a number as a literal of a numeric type.
-/

namespace BranchCover

/-- The value of a number literal. -/
inductive Number where
  | integer (n : Int)
  | floating (x : Binary64)
  deriving DecidableEq, Repr

namespace Number

/-- Why a literal has no value, or a number no literal of a type. -/
inductive Error where
  /-- An integer literal has more digits than are read. -/
  | tooManyDigits (count : Nat)
  /-- An integer has more digits than are written. -/
  | tooLong
  /-- An integer lies past the greatest floating number. -/
  | tooLarge
  /-- An infinite number has no integer part. -/
  | infinite
  deriving DecidableEq, Repr

/-- The wording of an error about too many digits, with what is known of them. -/
def Error.digitLimit (detail : String) : String :=
  "Exceeds the limit (" ++ toString Text.maxIntegerDigits ++
    " digits) for integer string conversion"
    ++ detail ++ "; use sys.set_int_max_str_digits() to increase the limit"

/-- The wording of an error. -/
def Error.message : Error → String
  | .tooManyDigits count => digitLimit (": value has " ++ toString count ++ " digits")
  | .tooLong => digitLimit ""
  | .tooLarge => "int too large to convert to float"
  | .infinite => "cannot convert float infinity to integer"

/-- Digits without the underscores between them. -/
def plainDigits (digits : List Char) : List Char := digits.filter (· != '_')

/-- The floating number that digits before and behind a point denote. -/
def readFloating (negative : Bool) (whole fraction : List Char) : Binary64 :=
  Binary64.ofRatio negative (Text.digitsValue (whole ++ fraction)) (Nat.pow 10 fraction.length)

/-- The integer that digits denote, unless they are too many. -/
def readInteger (negative : Bool) (digits : List Char) : Except Error Int :=
  if digits.length ≤ Text.maxIntegerDigits then
    .ok (if negative then -(Text.digitsValue digits : Int) else Text.digitsValue digits)
  else .error (.tooManyDigits digits.length)

/-- The value of the parts of a literal: floating if it has a fraction or a floating suffix. -/
def ofLiteral (literal : Literal.NumberLiteral) : Except Error Number :=
  let whole := plainDigits literal.whole
  if !literal.fraction.isEmpty || literal.suffix.any Literal.floatingSuffixes.contains then
    .ok (floating (readFloating literal.negative whole literal.fraction))
  else (readInteger literal.negative whole).map integer

/-- The value of a number literal, with blanks around it; any other text has none. -/
def parse (text : String) : Except Error (Option Number) :=
  match Literal.NumberLiteral.read? (Text.trim text.toList) with
  | some literal => (ofLiteral literal).map some
  | none => .ok none

/-- The value of a constant that names a bound of an integral type. -/
def ofBound? (text : List Char) : Option Number :=
  match Text.splitFirst? '.' text with
  | none => none
  | some (name, constant) =>
    match TypeText.integralBounds? (String.ofList name) with
    | none => none
    | some (least, greatest) =>
      if constant = "MIN_VALUE".toList then some (integer least)
      else if constant = "MAX_VALUE".toList then some (integer greatest)
      else none

/-- The value of a number literal or of a bound of an integral type; any other text has none. -/
def ofConstant (text : String) : Except Error (Option Number) :=
  (parse text).map fun number => number <|> ofBound? (Text.trim text.toList)

/-! ### Order and sums -/

/-- The order of two numbers, by their exact values. -/
def compare : Number → Number → Ordering
  | integer m, integer n => Ord.compare m n
  | integer m, floating y => Binary64.compareInt m y
  | floating x, integer n => (Binary64.compareInt n x).swap
  | floating x, floating y => Binary64.compare x y

/-- A number with an integer added to it. -/
def offset (number : Number) (n : Int) : Number :=
  match number with
  | integer m => integer (m + n)
  | floating x => floating (x.add (Binary64.ofInt n))

/-! ### Literals of a type -/

/-- A number as a floating number. -/
def toFloating : Number → Except Error Binary64
  | floating x => .ok x
  | integer n =>
    match Binary64.ofInt n with
    | .infinite _ => .error .tooLarge
    | x => .ok x

/-- The integer part of a number. -/
def toInteger : Number → Except Error Int
  | integer n => .ok n
  | floating x =>
    match x.truncate? with
    | some n => .ok n
    | none => .error .infinite

/-- The decimal text of an integer. -/
def intText (n : Int) : String :=
  String.ofList (if n < 0 then '-' :: Nat.toDigits 10 n.natAbs else Nat.toDigits 10 n.natAbs)

/-- The decimal text of an integer, unless it has too many digits. -/
def writeInteger (n : Int) : Except Error String :=
  if (Nat.toDigits 10 n.natAbs).length ≤ Text.maxIntegerDigits then .ok (intText n)
  else .error .tooLong

/-- A number as a literal of a type: floating types have a point, and `Long` and `Float` a
suffix. -/
def format (number : Number) (type : String) : Except Error String :=
  let name := TypeText.base type
  if name ∈ TypeText.floatingNames then
    number.toFloating.map fun x => if name = "Float" then x.text ++ "f" else x.text
  else do
    let text ← writeInteger (← number.toInteger)
    return if name ∈ TypeText.longNames then text ++ "L" else text

end Number

/-- The value of an integer literal. -/
def Literal.IntegerLiteral.value (literal : IntegerLiteral) : Except Number.Error Int :=
  Number.readInteger literal.negative literal.digits

end BranchCover
