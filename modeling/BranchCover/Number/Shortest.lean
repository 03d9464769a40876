import BranchCover.Number.Binary64

/-!
# Shortest decimals

A floating number is written with the fewest digits that read back as the same number, and of those
with the nearest. The layout is positional for decimal exponents from `-4` to `15`, with at least
one place behind the point, and otherwise has a mantissa and an exponent of at least two digits.
-/

namespace BranchCover.Binary64

/-- The decimal `digits · 10 ^ exponent` as a ratio. -/
def decimalRatio (digits : Nat) (exponent : Int) : Nat × Nat :=
  if 0 ≤ exponent then (digits * Nat.pow 10 exponent.toNat, 1)
  else (digits, Nat.pow 10 (-exponent).toNat)

/-- Whether a decimal reads back as a positive number. -/
def readsBack (significand : Nat) (exponent : Int) (digits : Nat) (decimal : Int) : Bool :=
  let (num, den) := decimalRatio digits decimal
  ofRatio false num den == finite false significand exponent

/-- Counts up from a bound `k` with `10 ^ (k - 1) ≤ num / den` to the one with
`num / den < 10 ^ k`. -/
def pointFrom (num den : Nat) : Nat → Int → Int
  | 0, k => k
  | steps + 1, k =>
    let (bound, unit) := decimalRatio 1 k
    if num * unit < bound * den then k else pointFrom num den steps (k + 1)

/-- The `k` with `10 ^ (k - 1) ≤ num / den < 10 ^ k`, for a positive binary number. -/
def decimalPoint (num den : Nat) : Int :=
  let guess : Int := (floorLog2 num den * 30103).fdiv 100000 - 1
  pointFrom num den 5 guess

/-- The nearer of a number's two neighbours on the grid of `10 ^ decimal` that reads back, a tie
going to the even one. -/
def onGrid? (significand : Nat) (exponent : Int) (decimal : Int) : Option Nat :=
  let (num, den) := scale significand 1 exponent
  let (step, unit) := decimalRatio 1 decimal
  let below := num * unit / (den * step)
  let nearest := roundDiv (num * unit) (den * step)
  let other := if nearest = below then below + 1 else below
  if readsBack significand exponent nearest decimal then some nearest
  else if readsBack significand exponent other decimal then some other
  else none

/-- The decimal with the fewest digits that reads back, tried from a number of digits on. -/
def shortestFrom (significand : Nat) (exponent : Int) (point : Int) : Nat → Nat → Nat × Int
  | 0, digits => ((onGrid? significand exponent (point - digits)).getD 0, point - digits)
  | more + 1, digits =>
    match onGrid? significand exponent (point - digits) with
    | some found => (found, point - digits)
    | none => shortestFrom significand exponent point more (digits + 1)

/-- The shortest decimal of a positive number: its digits and its exponent. -/
def shortest (significand : Nat) (exponent : Int) : Nat × Int :=
  let (num, den) := scale significand 1 exponent
  shortestFrom significand exponent (decimalPoint num den) 16 1

/-- The digits of a number without the zeros at their end, and the exponent that makes up for
them. -/
def withoutZeros : Nat → Nat → Int → Nat × Int
  | 0, digits, exponent => (digits, exponent)
  | steps + 1, digits, exponent =>
    if digits % 10 = 0 ∧ digits ≠ 0 then withoutZeros steps (digits / 10) (exponent + 1)
    else (digits, exponent)

/-- Zeros to pad a text with. -/
def zeros (n : Nat) : List Char := List.replicate n '0'

/-- Writes the digits of a positive decimal whose first digit stands at `10 ^ leading`. -/
def layout (digits : List Char) (leading : Int) : List Char :=
  if leading < -4 ∨ 16 ≤ leading then
    let mantissa := match digits with
      | [] => []
      | [d] => [d]
      | d :: rest => d :: '.' :: rest
    let size := Nat.toDigits 10 leading.natAbs
    mantissa ++ 'e' :: (if leading < 0 then '-' else '+') ::
      (zeros (2 - size.length) ++ size)
  else if leading < 0 then
    '0' :: '.' :: (zeros (leading.natAbs - 1) ++ digits)
  else
    let whole := leading.toNat + 1
    let padded := digits ++ zeros (whole - digits.length)
    let places := padded.drop whole
    padded.take whole ++ '.' :: (if places.isEmpty then ['0'] else places)

/-- The text of a floating number. -/
def text : Binary64 → String
  | infinite negative => if negative then "-inf" else "inf"
  | finite negative significand exponent =>
    let body :=
      if significand = 0 then ['0', '.', '0']
      else
        let (digits, decimal) := shortest significand exponent
        let (digits, decimal) := withoutZeros 20 digits decimal
        let written := Nat.toDigits 10 digits
        layout written (decimal + written.length - 1)
    String.ofList (if negative then '-' :: body else body)

end BranchCover.Binary64
