/-!
# Binary floating numbers of 64 bits

A finite number is `± significand · 2 ^ exponent` with a significand below `2 ^ 53` and an exponent
of at least `-1074`. Every operation computes the exact rational result and rounds it once, to the
nearest number and a tie to the even significand.

* `Binary64.ofRatio`: the number nearest to a ratio.
* `Binary64.add`, `Binary64.mul`: sum and product.
* `Binary64.roundPlaces`: the number nearest to a decimal of so many places.
-/

namespace BranchCover

/-- A quotient rounded to the nearest integer, a tie to the even one. -/
def roundDiv (num den : Nat) : Nat :=
  let quotient := num / den
  let remainder := num % den
  if 2 * remainder < den then quotient
  else if den < 2 * remainder then quotient + 1
  else if quotient % 2 = 0 then quotient else quotient + 1

/-- A floating number: finite, or infinite with a sign. -/
inductive Binary64 where
  | finite (negative : Bool) (significand : Nat) (exponent : Int)
  | infinite (negative : Bool)
  deriving DecidableEq, Repr, Inhabited

namespace Binary64

/-- The least exponent of a finite number. -/
def minExponent : Int := -1074

/-- The greatest exponent of a finite number. -/
def maxExponent : Int := 971

/-- Significands are below this bound, which is `2 ^ 53`. -/
def significandLimit : Nat := 9007199254740992

/-- A ratio times a power of two, as a ratio. -/
def scale (num den : Nat) (power : Int) : Nat × Nat :=
  if 0 ≤ power then (num * Nat.pow 2 power.toNat, den)
  else (num, den * Nat.pow 2 (-power).toNat)

/-- The greatest `k` with `2 ^ k ≤ num / den`, for a positive ratio. -/
def floorLog2 (num den : Nat) : Int :=
  let guess : Int := (Nat.log2 num : Int) - Nat.log2 den
  let (scaled, unit) := scale num den (-guess)
  if unit ≤ scaled then guess else guess - 1

/-- The number nearest to a ratio with a sign; past the greatest finite number it is infinite. -/
def ofRatio (negative : Bool) (num den : Nat) : Binary64 :=
  if num = 0 then finite negative 0 minExponent
  else
    let exponent := max minExponent (floorLog2 num den - 52)
    let (scaled, unit) := scale num den (-exponent)
    let significand := roundDiv scaled unit
    let (significand, exponent) :=
      if significand = significandLimit then (significandLimit / 2, exponent + 1)
        else (significand, exponent)
    if maxExponent < exponent then infinite negative else finite negative significand exponent

/-- The number nearest to an integer. -/
def ofInt (n : Int) : Binary64 := ofRatio (n < 0) n.natAbs 1

/-- A signed number `num · 2 ^ exponent` at a smaller exponent: the factor of `2 ^ target`. -/
def align (num exponent target : Int) : Int := num * (Nat.pow 2 (exponent - target).toNat : Nat)

/-- The number nearest to `num · 2 ^ exponent`; `zeroSign` is the sign of a zero. -/
def ofDyadic (num exponent : Int) (zeroSign : Bool) : Binary64 :=
  let (scaled, unit) := scale num.natAbs 1 exponent
  ofRatio (if num = 0 then zeroSign else num < 0) scaled unit

/-- A significand with its sign. -/
def signed (negative : Bool) (significand : Nat) : Int :=
  if negative then -(significand : Int) else significand

/-- The sum of two numbers. An infinite summand decides; of two, the first. -/
def add : Binary64 → Binary64 → Binary64
  | infinite negative, _ => infinite negative
  | _, infinite negative => infinite negative
  | finite n₁ s₁ e₁, finite n₂ s₂ e₂ =>
    let target := min e₁ e₂
    ofDyadic (align (signed n₁ s₁) e₁ target + align (signed n₂ s₂) e₂ target) target (n₁ && n₂)

/-- The product of two finite numbers. A product with an infinite factor is infinite. -/
def mul : Binary64 → Binary64 → Binary64
  | infinite n₁, infinite n₂ => infinite (n₁ != n₂)
  | infinite n₁, finite n₂ _ _ => infinite (n₁ != n₂)
  | finite n₁ _ _, infinite n₂ => infinite (n₁ != n₂)
  | finite n₁ s₁ e₁, finite n₂ s₂ e₂ =>
    ofDyadic (signed n₁ s₁ * signed n₂ s₂) (e₁ + e₂) (n₁ != n₂)

/-- The number nearest to the decimal of so many places that is nearest to a number. -/
def roundPlaces (places : Nat) : Binary64 → Binary64
  | infinite negative => infinite negative
  | finite negative significand exponent =>
    let (num, den) := scale significand 1 exponent
    ofRatio negative (roundDiv (num * Nat.pow 10 places) den) (Nat.pow 10 places)

/-- The integer part, toward zero, of a finite number. -/
def truncate? : Binary64 → Option Int
  | infinite _ => none
  | finite negative significand exponent =>
    let (num, den) := scale significand 1 exponent
    some (signed negative (num / den))

/-- The order of two numbers; both zeros are equal. -/
def compare : Binary64 → Binary64 → Ordering
  | infinite n₁, infinite n₂ => Ord.compare (!n₁) (!n₂)
  | infinite negative, _ => if negative then .lt else .gt
  | _, infinite negative => if negative then .gt else .lt
  | finite n₁ s₁ e₁, finite n₂ s₂ e₂ =>
    let target := min e₁ e₂
    Ord.compare (align (signed n₁ s₁) e₁ target) (align (signed n₂ s₂) e₂ target)

/-- The order of an integer and a number, by their exact values. -/
def compareInt (n : Int) : Binary64 → Ordering
  | infinite negative => if negative then .gt else .lt
  | finite negative significand exponent =>
    let target := min 0 exponent
    Ord.compare (align n 0 target) (align (signed negative significand) exponent target)

end Binary64

end BranchCover
