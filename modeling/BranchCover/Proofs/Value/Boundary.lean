import BranchCover.Proofs.Number.Integer
import BranchCover.Proofs.Value.Comparison

/-!
# Comparisons with integers at the ends of a type

The value that makes a comparison `x op k` of an integral subject take a wanted truth is `k` or a
neighbour of it, moved into the type if it lies outside. A difference from `k` is asked of `k + 1`;
moved back from behind the greatest value of the type, that is `k` itself, and the comparison takes
the other truth.

* `withinBounds_clamp`: the value of an integer denotes the nearest integer of the type.
* `forAtom_integral`: the value of a comparison with an integer literal, as a number.
* `forAtom_integral_truth`: whether it makes the comparison take the wanted truth.
-/

namespace BranchCover

/-! ### Literals -/

namespace Number

/-- An integer literal that is not too long is read as the integer that it denotes. -/
theorem parse_integer {text : String} {literal : Literal.NumberLiteral}
    (hread : Literal.NumberLiteral.read? (Text.trim text.toList) = some literal)
    (hinteger : literal.IsInteger) (hshort : literal.Short) :
    parse text = .ok (some (.integer literal.integer)) := by
  rw [parse, hread]
  show (ofLiteral literal).map some = _
  rw [ofLiteral_eq_integer_iff.2 ⟨hinteger, hshort, rfl⟩]
  rfl

theorem ofConstant_leastValue {name : String} {least greatest : Int}
    (h : TypeText.integralBounds? name = some (least, greatest)) :
    ofConstant (name ++ ".MIN_VALUE") = .ok (some (.integer least)) := by
  have hall : ∀ n ∈ ["Byte", "Short", "Int", "Long"], ∀ bounds ∈ TypeText.integralBounds? n,
      ofConstant (n ++ ".MIN_VALUE") = .ok (some (.integer bounds.1)) := by decide
  exact hall name (TypeText.integralBounds?_cases h).1 _ h

theorem ofConstant_greatestValue {name : String} {least greatest : Int}
    (h : TypeText.integralBounds? name = some (least, greatest)) :
    ofConstant (name ++ ".MAX_VALUE") = .ok (some (.integer greatest)) := by
  have hall : ∀ n ∈ ["Byte", "Short", "Int", "Long"], ∀ bounds ∈ TypeText.integralBounds? n,
      ofConstant (n ++ ".MAX_VALUE") = .ok (some (.integer bounds.2)) := by decide
  exact hall name (TypeText.integralBounds?_cases h).1 _ h

end Number

namespace Value

/-! ### Values -/

/-- The value of an integral type for an integer denotes the nearest integer of the type. -/
theorem withinBounds_clamp {type : String} {least greatest : Int} (n : Int)
    (hbounds : TypeText.integralBounds? (TypeText.base type) = some (least, greatest)) :
    ∃ text, withinBounds (.integer n) type = .ok text ∧
      Number.ofConstant text = .ok (some (.integer (clamp least greatest n))) := by
  have hordered := TypeText.least_le_greatest hbounds
  rcases lt_or_ge n least with hlow | hlow
  · have hclamp : clamp least greatest n = least := by
      unfold clamp
      omega
    rw [hclamp]
    refine ⟨TypeText.base type ++ ".MIN_VALUE", ?_, Number.ofConstant_leastValue hbounds⟩
    simp only [withinBounds, hbounds, Number.compare_integer, Int.compare_eq_lt.2 hlow, if_true]
  rcases lt_or_ge greatest n with hhigh | hhigh
  · have hclamp : clamp least greatest n = greatest := by
      unfold clamp
      omega
    rw [hclamp]
    refine ⟨TypeText.base type ++ ".MAX_VALUE", ?_, Number.ofConstant_greatestValue hbounds⟩
    simp only [withinBounds, hbounds, Number.compare_integer, Int.compare_ne_lt.2 hlow,
      Int.compare_eq_gt.2 hhigh, if_true, if_false]
  · have hclamp : clamp least greatest n = n := by
      unfold clamp
      omega
    obtain ⟨text, htext, hparse⟩ := withinBounds_integer hbounds hlow hhigh
    rw [hclamp]
    exact ⟨text, htext, Number.ofConstant_of_parse hparse⟩

/-! ### Atoms -/

variable {parameter : Parameter} {subject operand : String} {operator : Comparator}
  {least greatest : Int} {literal : Literal.NumberLiteral} {known : Bindings}

/-- A comparison of an integral subject with an integer literal has a value unless the literal has
too many digits. -/
theorem returns_forAtom_integral_iff
    (hbounds : TypeText.integralBounds? (TypeText.base parameter.typeName) = some (least, greatest))
    (hunbound : known.get? (trimmed operand) = none)
    (hread : Literal.NumberLiteral.read? (Text.trim operand.toList) = some literal)
    (desired : Bool) :
    Returns (forAtom parameter (some (.comparison subject (some operator) (some operand)))
      desired known)
      ↔ literal.Short := by
  have hfloat := (TypeText.numeric_of_integralBounds? hbounds).2
  simp only [forAtom, Option.getD_some, hunbound, Option.getD_none]
  rw [returns_comparisonValue_iff, OperandReadable, toList_trimmed, Text.trim_trim, hread]
  simp [hfloat]

/-- **The value for a comparison of an integral subject with `k` denotes `k` or its neighbour on the
wanted side, moved into the type.** -/
theorem forAtom_integral (subject : String)
    (hbounds : TypeText.integralBounds? (TypeText.base parameter.typeName) = some (least, greatest))
    (hknown : operator ∈ Comparator.all) (hunbound : known.get? (trimmed operand) = none)
    (hread : Literal.NumberLiteral.read? (Text.trim operand.toList) = some literal)
    (hinteger : literal.IsInteger) (hshort : literal.Short) (desired : Bool) :
    ∃ text, forAtom parameter (some (.comparison subject (some operator) (some operand)))
      desired known
        = .ok text ∧
      Number.ofConstant text
        = .ok (some (.integer (clamp least greatest
          (literal.integer + operator.shift desired)))) := by
  have hnumeric := (TypeText.numeric_of_integralBounds? hbounds).1
  have hparse : Number.parse (trimmed operand) = .ok (some (.integer literal.integer)) := by
    rw [Number.parse_trimmed, Number.parse_integer hread hinteger hshort]
  obtain ⟨text, htext, hvalue⟩ := withinBounds_clamp
    (literal.integer + operator.shift desired) hbounds
  refine ⟨text, ?_, hvalue⟩
  simp only [forAtom, Option.getD_some, hunbound, Option.getD_none]
  rw [comparisonValue_of_number (by simp [hparse]), hparse, ok_bind, Option.elim_some,
    if_pos hnumeric, askedBoundary_shift hknown, htext]

/-- A comparison with an integer literal is told by the order of the integers. -/
theorem atomHolds_literal (subject : String) {value : String} {n : Int}
    (hknown : operator ∈ Comparator.all)
    (hunbound : known.get? (trimmed operand) = none)
    (hread : Literal.NumberLiteral.read? (Text.trim operand.toList) = some literal)
    (hinteger : literal.IsInteger) (hshort : literal.Short)
    (hvalue : Number.ofConstant value = .ok (some (.integer n))) :
    atomHolds (.comparison subject (some operator) (some operand)) value known
      = .ok (some (operator.relates n literal.integer)) := by
  rw [atomHolds_integer hknown hunbound hvalue (Number.parse_integer hread hinteger hshort),
    Comparator.holds?_compare hknown]

/-- **A comparison of a `Byte`, `Short`, `Int` or `Long` with an integer literal `k` has a value
unless `k` has more digits than are read. The value denotes an integer of the type, and the
comparison is judged by that integer. It takes the wanted truth exactly if some integer of the type
gives it this truth, but for a difference from the greatest value of the type: there the value is
`k` itself.** -/
theorem forAtom_integral_truth
    (hbounds : TypeText.integralBounds? (TypeText.base parameter.typeName) = some (least, greatest))
    (hknown : operator ∈ Comparator.all) (hunbound : known.get? (trimmed operand) = none)
    (hread : Literal.NumberLiteral.read? (Text.trim operand.toList) = some literal)
    (hinteger : literal.IsInteger) (desired : Bool) :
    let shape := AtomShape.comparison subject (some operator) (some operand)
    let k := literal.integer
    (Returns (forAtom parameter (some shape) desired known) ↔ literal.Short) ∧
    ∀ text, forAtom parameter (some shape) desired known = .ok text →
      ∃ n, Number.ofConstant text = .ok (some (.integer n)) ∧ least ≤ n ∧ n ≤ greatest ∧
        atomHolds shape text known = .ok (some (operator.relates n k)) ∧
        (operator.relates n k = desired ↔
          (∃ m, least ≤ m ∧ m ≤ greatest ∧ operator.relates m k = desired) ∧
            ¬ operator.MovesBack desired greatest k) := by
  intro shape k
  have hordered := TypeText.least_le_greatest hbounds
  have hreturns : Returns (forAtom parameter (some shape) desired known) ↔ literal.Short :=
    returns_forAtom_integral_iff hbounds hunbound hread desired
  refine ⟨hreturns, fun text htext => ?_⟩
  have hshort := hreturns.1 ⟨text, htext⟩
  obtain ⟨found, hfound, hvalue⟩ :=
    forAtom_integral subject hbounds hknown hunbound hread hinteger hshort desired
  obtain rfl : found = text := Except.ok.inj (hfound.symm.trans htext)
  obtain ⟨hlow, hhigh⟩ := clamp_mem hordered (k + operator.shift desired)
  refine ⟨_, hvalue, hlow, hhigh, ?_, Comparator.relates_clamp_iff hknown hordered desired⟩
  exact atomHolds_literal subject hknown hunbound hread hinteger hshort hvalue

/-- A `Byte` that is asked to differ from 128 is moved back onto 127, which differs from it. -/
theorem forAtom_integral_truth_clipped :
    TypeText.integralBounds? (TypeText.base "Byte") = some (-128, 127) ∧
    Comparator.equal ∈ Comparator.all ∧ Bindings.get? [] (trimmed "128") = none ∧
    Literal.NumberLiteral.read? (Text.trim "128".toList) = some ⟨false, ['1', '2', '8'], [], none⟩ ∧
    Literal.NumberLiteral.IsInteger ⟨false, ['1', '2', '8'], [], none⟩ ∧
    forAtom { name := "b", typeName := "Byte" } (some (.comparison "b" (some .equal) (some "128")))
      false []
      = .ok "Byte.MAX_VALUE" ∧
    atomHolds (.comparison "b" (some .equal) (some "128")) "Byte.MAX_VALUE" [] =
      .ok (some false) := by
  have hbounds : TypeText.integralBounds? (TypeText.base "Byte") = some (-128, 127) := by decide
  have hknown : Comparator.equal ∈ Comparator.all := by decide
  have hunbound : Bindings.get? [] (trimmed "128") = none := rfl
  have hread : Literal.NumberLiteral.read? (Text.trim "128".toList)
      = some ⟨false, ['1', '2', '8'], [], none⟩ := by decide
  have hinteger : Literal.NumberLiteral.IsInteger ⟨false, ['1', '2', '8'], [], none⟩ := ⟨rfl, rfl⟩
  have htext : forAtom { name := "b", typeName := "Byte" }
      (some (.comparison "b" (some .equal) (some "128"))) false [] = .ok "Byte.MAX_VALUE" := by
        decide
  obtain ⟨n, -, -, -, hholds, hwanted⟩ :=
    (@forAtom_integral_truth { name := "b", typeName := "Byte" } "b" "128"
    .equal (-128) 127 _ [] hbounds hknown hunbound hread hinteger false).2 _ htext
  have hinside : ∃ m : Int, -128 ≤ m ∧ m ≤ 127 ∧ Comparator.equal.relates m
      (Literal.NumberLiteral.integer ⟨false, ['1', '2', '8'], [], none⟩) = false :=
    ⟨0, by decide, by decide, by decide⟩
  refine ⟨hbounds, hknown, hunbound, hread, hinteger, htext, ?_⟩
  rw [hholds, hwanted.2 ⟨hinside, fun hmoves => absurd hmoves.2 (by decide)⟩]

/-- A `Byte` that is asked to differ from 127 is 127, although 126 would do. -/
theorem forAtom_equal_greatest :
    forAtom { name := "b", typeName := "Byte" } (some (.comparison "b" (some .equal) (some "127")))
      false []
      = .ok "Byte.MAX_VALUE" ∧
    atomHolds (.comparison "b" (some .equal) (some "127")) "Byte.MAX_VALUE" [] = .ok (some true) ∧
    atomHolds (.comparison "b" (some .equal) (some "127")) "126" [] = .ok (some false) := by
  refine ⟨by decide, by decide, by decide⟩

end Value

end BranchCover
