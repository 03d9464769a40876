import BranchCover.Proofs.Value.Comparator
import BranchCover.Proofs.Value.Readable

/-!
# Values of comparisons

Every value that is chosen for an atom is readable. Whether there is one depends on the literal of
the atom alone: a comparison has none only if its literal has more digits than are read, or is
compared with a floating parameter and too large for it.

* `forAtom_readable`: the values of atoms are readable.
* `returns_comparisonValue_iff`: the comparisons that have a value.
* `comparisonValue_integer`: the value that an integer literal strictly between the bounds of an
  integral type gives is an integer for which the comparison takes the wanted truth.
-/

namespace BranchCover

/-! ### Integral types -/

namespace TypeText

theorem integralBounds?_cases {name : String} {least greatest : Int}
    (h : integralBounds? name = some (least, greatest)) :
    name ∈ ["Byte", "Short", "Int", "Long"] ∧ -9223372036854775808 ≤ least ∧ least < 0 ∧
      0 < greatest ∧ greatest ≤ 9223372036854775807 := by
  unfold integralBounds? at h
  split_ifs at h with h₁ h₂ h₃ h₄ <;> obtain ⟨rfl, rfl⟩ := Prod.mk.inj (Option.some.inj h)
  · exact ⟨by rw [h₁]; decide, by omega, by omega, by omega, by omega⟩
  · exact ⟨by rw [h₂]; decide, by omega, by omega, by omega, by omega⟩
  · exact ⟨by rw [h₃]; decide, by omega, by omega, by omega, by omega⟩
  · exact ⟨by rw [h₄]; decide, by omega, by omega, by omega, by omega⟩

theorem least_le_greatest {name : String} {least greatest : Int}
    (h : integralBounds? name = some (least, greatest)) : least ≤ greatest := by
  obtain ⟨-, -, hneg, hpos, -⟩ := integralBounds?_cases h
  omega

/-- A type with bounds is numeric and not floating. -/
theorem numeric_of_integralBounds? {name : String} {bounds : Int × Int}
    (h : integralBounds? name = some bounds) :
    name ∈ numericNames ∧ name ∉ floatingNames := by
  have hall : ∀ n ∈ ["Byte", "Short", "Int", "Long"], n ∈ numericNames ∧ n ∉ floatingNames := by
    decide
  exact hall name (integralBounds?_cases h).1

/-- A numeric type without bounds is floating. -/
theorem floating_of_integralBounds? {name : String} (hnumeric : name ∈ numericNames)
    (h : integralBounds? name = none) : name ∈ floatingNames := by
  have hall : ∀ n ∈ numericNames, integralBounds? n = none → n ∈ floatingNames := by decide
  exact hall name hnumeric h

end TypeText

namespace Value

theorem startsOtherwise_bound {name : String} {bounds : Int × Int}
    (h : TypeText.integralBounds? name = some bounds) (constant : String) :
    startsOtherwise (name ++ constant) = true := by
  have hall : ∀ n ∈ ["Byte", "Short", "Int", "Long"], startsOtherwise n = true := by decide
  exact startsOtherwise_append (hall name (TypeText.integralBounds?_cases h).1) constant

/-- A number always has a value of an integral type, and it is readable. -/
theorem withinBounds_integral (number : Number) {type : String} {bounds : Int × Int}
    (h : TypeText.integralBounds? (TypeText.base type) = some bounds) :
    ∃ text, withinBounds number type = .ok text ∧ Readable text := by
  obtain ⟨least, greatest⟩ := bounds
  obtain ⟨-, hleast, hneg, hpos, hgreatest⟩ := TypeText.integralBounds?_cases h
  have hfloat := (TypeText.numeric_of_integralBounds? h).2
  simp only [withinBounds, h]
  by_cases hlow : number.compare (.integer least) = .lt
  · rw [if_pos hlow]
    exact ⟨_, rfl, readable_of_startsOtherwise (startsOtherwise_bound h _)⟩
  by_cases hhigh : number.compare (.integer greatest) = .gt
  · rw [if_neg hlow, if_pos hhigh]
    exact ⟨_, rfl, readable_of_startsOtherwise (startsOtherwise_bound h _)⟩
  rw [if_neg hlow, if_neg hhigh]
  obtain ⟨n, hn, hlower, hupper⟩ := Number.toInteger_of_compare (by omega) (by omega) hlow hhigh
  obtain ⟨text, htext⟩ := Number.returns_format_integral hfloat hn (by omega)
  obtain ⟨m, hm, hparse⟩ := Number.parse_format hfloat htext
  obtain rfl : n = m := Except.ok.inj (hn.symm.trans hm)
  refine ⟨text, htext, some (.integer n), hparse, fun m hm => ?_⟩
  obtain rfl : n = m := by simpa using hm
  omega

/-- The literal of a number of a floating type is readable. -/
theorem format_floating {number : Number} {type text : String}
    (htype : TypeText.base type ∈ TypeText.floatingNames) (h : number.format type = .ok text) :
    Readable text := by
  simp only [Number.format, htype, if_true] at h
  obtain ⟨x, -, rfl⟩ := map_eq_ok_iff.1 h
  obtain ⟨c, hc, hmark⟩ := Binary64.exists_mark_text x
  refine readable_ite (readable_of_mark (c := c) ?_ hmark) (readable_of_mark hc hmark)
  rw [String.toList_append]
  exact List.mem_append_left _ hc

/-- An integer of 64 bits and its neighbours are finite floating numbers. -/
theorem ofInt_ne_infinite {n : Int} (hlow : -9223372036854775809 ≤ n)
    (hhigh : n ≤ 9223372036854775808) (negative : Bool) :
      Binary64.ofInt n ≠ .infinite negative := by
  have hlog : n.natAbs.log2 ≤ 1022 := by
    by_cases hzero : n.natAbs = 0
    · simp [hzero]
    · have hsmall : n.natAbs < 2 ^ 64 := by omega
      have := (Nat.log2_lt hzero).2 hsmall
      omega
  obtain ⟨_, _, _, hfinite⟩ := Binary64.ofInt_eq_finite hlog
  simp [hfinite]

/-- A value of a numeric type is readable. -/
theorem withinBounds_readable {number : Number} {type text : String}
    (htype : TypeText.base type ∈ TypeText.numericNames)
    (h : withinBounds number type = .ok text) : Readable text := by
  cases hbounds : TypeText.integralBounds? (TypeText.base type) with
  | some bounds =>
    obtain ⟨found, hfound, hreadable⟩ := withinBounds_integral number hbounds
    obtain rfl : found = text := Except.ok.inj (hfound.symm.trans h)
    exact hreadable
  | none =>
    simp only [withinBounds, hbounds] at h
    exact format_floating (TypeText.floating_of_integralBounds? htype hbounds) h

/-- Only a floating type may have no value for a number. -/
theorem returns_withinBounds_iff {number : Number} {type : String}
    (htype : TypeText.base type ∈ TypeText.numericNames) :
    Returns (withinBounds number type) ↔
      (TypeText.base type ∈ TypeText.floatingNames → Returns number.toFloating) := by
  cases hbounds : TypeText.integralBounds? (TypeText.base type) with
  | some bounds =>
    obtain ⟨text, htext, -⟩ := withinBounds_integral number hbounds
    have hfloat := (TypeText.numeric_of_integralBounds? hbounds).2
    exact iff_of_true ⟨text, htext⟩ fun h => absurd h hfloat
  | none =>
    have hfloat := TypeText.floating_of_integralBounds? htype hbounds
    simp only [withinBounds, hbounds, Number.format, hfloat, if_true, returns_map_iff, true_imp_iff]

/-! ### Comparisons -/

/-- A string literal starts with its quote. -/
theorem head?_of_stringBody? {text body : List Char} (h : Literal.stringBody? text = some body) :
    text.head? = some '"' := by
  unfold Literal.stringBody? at h
  split at h
  · rfl
  · cases h

theorem parse_of_stringBody? {text : String} {body : List Char}
    (h : Literal.stringBody? text.toList = some body) : Number.parse text = .ok none :=
  Number.parse_of_head (head?_of_stringBody? h) (by decide) (by decide) (by decide)

/-- The value of a comparison is readable, whatever its operand is. -/
theorem comparisonValue_readable {type operand text : String} {operator : Comparator}
    {desired : Bool}
    (h : comparisonValue type operator operand desired = .ok text) : Readable text := by
  unfold comparisonValue at h
  split at h
  rename_i operator desired _
  extract_lets at h
  split at h
  · obtain rfl := Except.ok.inj h
    exact readable_ite (readable_of_startsOtherwise (by decide)) (neutral_readable _)
  split at h
  · rename_i hboolean
    obtain rfl := Except.ok.inj h
    refine readable_ite ?_ (readable_ite ?_ ?_)
    · rcases hboolean.2.2 with rfl | rfl <;> exact readable_of_startsOtherwise (by decide)
    · exact readable_of_startsOtherwise (by decide)
    · exact readable_of_startsOtherwise (by decide)
  split at h
  · rename_i body hbody
    have hoperand : Literal.stringBody? operand.toList = some body := by
      split at hbody
      · exact hbody
      · cases hbody
    obtain rfl := Except.ok.inj h
    refine readable_ite ⟨none, parse_of_stringBody? hoperand, by simp⟩ ?_
    exact readable_of_startsOtherwise (by simp [startsOtherwise]; decide)
  · obtain ⟨number, hnumber, h⟩ := bind_eq_ok_iff.1 h
    cases number with
    | none =>
      obtain rfl := Except.ok.inj h
      exact neutral_readable type
    | some number =>
      dsimp only at h
      split at h
      · rename_i hnumeric
        exact withinBounds_readable hnumeric h
      · obtain rfl := Except.ok.inj h
        exact neutral_readable type

/-- The operator and the truth that a comparison comes down to: a difference is an equality that is
not wanted. -/
def asked (operator : Comparator) (desired : Bool) : Comparator × Bool :=
  if operator = .notEqual then (.equal, !desired) else (operator, desired)

/-- The number for which a comparison with a number takes a wanted truth. -/
def askedBoundary (operator : Comparator) (number : Number) (desired : Bool) : Number :=
  boundary (asked operator desired).1 number (asked operator desired).2

theorem returns_comparisonValue_of_parse {type operand : String} {operator : Comparator}
    {desired : Bool} (h : Number.parse operand = .ok none) :
    Returns (comparisonValue type operator operand desired) := by
  unfold comparisonValue
  split
  extract_lets
  split
  · exact returns_ok _
  split
  · exact returns_ok _
  split
  · exact returns_ok _
  · exact returns_bind_iff.2 ⟨none, h, returns_ok _⟩

/-- A comparison with a number has the value of a boundary, if its subject is numeric. -/
theorem comparisonValue_of_number {type operand : String} {operator : Comparator} {desired : Bool}
    (h : Number.parse operand ≠ .ok none) :
    comparisonValue type operator operand desired =
      Number.parse operand >>= fun number => number.elim (pure (neutral type)) fun number =>
        if TypeText.base type ∈ TypeText.numericNames then
          withinBounds (askedBoundary operator number desired) type
        else pure (neutral type) := by
  have hnull : operand ≠ "null" := by
    rintro rfl
    exact h (parse_of_startsOtherwise (by decide))
  have htruth : ¬ (operand = "true" ∨ operand = "false") := by
    rintro (rfl | rfl) <;> exact h (parse_of_startsOtherwise (by decide))
  have hstring : Literal.stringBody? operand.toList = none :=
    Option.eq_none_iff_forall_ne_some.2 fun body hbody => h (parse_of_stringBody? hbody)
  by_cases hdiffer : operator = .notEqual
  · simp only [comparisonValue, askedBoundary, asked, hdiffer, hnull, htruth, hstring, if_true,
      if_false, and_false]
    refine bind_congr fun number => ?_
    cases number <;> simp only [Option.elim_none, Option.elim_some]
  · simp only [comparisonValue, askedBoundary, asked, hdiffer, hnull, htruth, hstring, if_false,
      and_false, ite_self]
    refine bind_congr fun number => ?_
    cases number <;> simp only [Option.elim_none, Option.elim_some]

/-- The operand of a comparison can be read, and the boundary that it gives is a value of the type:
an integer has no more digits than are read, and for a floating type it is not past the greatest
number. -/
def OperandReadable (type : String) (operator : Comparator) (operand : String) (desired : Bool) :
    Prop :=
  (∀ literal ∈ Literal.NumberLiteral.read? (Text.trim operand.toList), literal.Short) ∧
    (TypeText.base type ∈ TypeText.floatingNames →
      ∀ k n, Number.parse operand = .ok (some (.integer k)) →
        askedBoundary operator (.integer k) desired = .integer n →
          ∀ negative, Binary64.ofInt n ≠ .infinite negative)

theorem returns_toFloating_integer_iff {n : Int} :
    Returns (Number.toFloating (.integer n)) ↔
    ∀ negative, Binary64.ofInt n ≠ .infinite negative := by
  cases hvalue : Binary64.ofInt n <;> simp [Number.toFloating, hvalue]

/-- The boundary of an integer is an integer at most one off it, and that of a floating number is
floating. -/
theorem askedBoundary_cases (operator : Comparator) (number : Number) (desired : Bool) :
    (∃ k n, number = .integer k ∧ askedBoundary operator number desired = .integer n ∧
      k - 1 ≤ n ∧ n ≤ k + 1) ∨
    ∃ x y, number = .floating x ∧ askedBoundary operator number desired = .floating y := by
  cases number with
  | integer k =>
    refine Or.inl ⟨k, ?_⟩
    cases operator <;> cases desired <;> exact ⟨_, rfl, rfl, by omega, by omega⟩
  | floating x =>
    refine Or.inr ⟨x, ?_⟩
    cases operator <;> cases desired <;> exact ⟨_, rfl, rfl⟩

/-- **It depends on the literal of a comparison alone whether it has a value.** -/
theorem returns_comparisonValue_iff {type operand : String} {operator : Comparator}
    {desired : Bool} :
    Returns (comparisonValue type operator operand desired) ↔
      OperandReadable type operator operand desired := by
  unfold OperandReadable
  rw [← Number.returns_parse_iff]
  cases hparse : Number.parse operand with
  | error e =>
    rw [comparisonValue_of_number (by simp [hparse]), hparse]
    exact iff_of_false (not_returns_error _) fun h => not_returns_error _ h.1
  | ok number =>
    cases number with
    | none =>
      exact iff_of_true (returns_comparisonValue_of_parse hparse) ⟨returns_ok _, by simp⟩
    | some number =>
      have hsub : TypeText.base type ∈ TypeText.floatingNames →
          TypeText.base type ∈ TypeText.numericNames := fun h => List.mem_append_right _ h
      have hreads : Returns (Except.ok (some number) : Except Number.Error _) := returns_ok _
      rw [comparisonValue_of_number (by simp [hparse]), hparse, ok_bind, Option.elim_some]
      split_ifs with hnumeric
      · rw [returns_withinBounds_iff hnumeric, and_iff_right hreads]
        refine imp_congr_right fun _ => ?_
        rcases askedBoundary_cases operator number desired with
          ⟨k, n, rfl, hboundary, -⟩ | ⟨x, y, rfl, hboundary⟩
        · rw [hboundary, returns_toFloating_integer_iff]
          constructor
          · intro hfinite k' n' hk hn
            obtain rfl : k = k' := by simpa using hk
            obtain rfl : n = n' := Number.integer.inj (hboundary.symm.trans hn)
            exact hfinite
          · intro hfinite
            exact hfinite k n rfl hboundary
        · rw [hboundary]
          exact iff_of_true (returns_ok y) (by simp)
      · exact iff_of_true (returns_ok _) ⟨hreads, fun hfloat => absurd (hsub hfloat) hnumeric⟩

/-- A comparison with a readable operand has a value. -/
theorem returns_comparisonValue {type operand : String} (operator : Comparator) (desired : Bool)
    (h : Readable operand) : Returns (comparisonValue type operator operand desired) := by
  refine returns_comparisonValue_iff.2 ⟨Number.returns_parse_iff.1 h.returns_parse, ?_⟩
  intro _ k n hparse hboundary
  obtain ⟨number, hnumber, hsmall⟩ := h
  obtain ⟨hlow, hhigh⟩ := hsmall k (Except.ok.inj (hnumber.symm.trans hparse))
  rcases askedBoundary_cases operator (.integer k) desired with
    ⟨k', n', hk, hn, hlower, hupper⟩ | ⟨x, y, hx, -⟩
  · obtain rfl : k = k' := Number.integer.inj hk
    obtain rfl : n = n' := Number.integer.inj (hboundary.symm.trans hn)
    exact ofInt_ne_infinite (by omega) (by omega)
  · cases hx

theorem askedBoundary_shift {operator : Comparator} (hknown : operator ∈ Comparator.all) (k : Int)
    (desired : Bool) :
    askedBoundary operator (.integer k) desired = .integer (k + operator.shift desired) := by
  rcases Comparator.mem_all_cases hknown with rfl | rfl | rfl | rfl | rfl | rfl <;>
    cases desired <;>
    simp [askedBoundary, asked, boundary, Comparator.shift, Number.offset]

/-- The boundary for an integer is at most one off it, and on the wanted side. -/
theorem askedBoundary_integer {operator : Comparator} (hknown : operator ∈ Comparator.all) (k : Int)
    (desired : Bool) :
    ∃ n, askedBoundary operator (.integer k) desired = .integer n ∧ k - 1 ≤ n ∧ n ≤ k + 1 ∧
      operator.holds? (compare n k) = some desired := by
  obtain ⟨hlow, hhigh⟩ := operator.shift_bounds desired
  refine ⟨_, askedBoundary_shift hknown k desired, by omega, by omega, ?_⟩
  rw [Comparator.holds?_compare hknown, Comparator.relates_shift hknown]

/-- An integer between the bounds of an integral type is its own value. -/
theorem withinBounds_integer {type : String} {least greatest n : Int}
    (hbounds : TypeText.integralBounds? (TypeText.base type) = some (least, greatest))
    (hlow : least ≤ n) (hhigh : n ≤ greatest) :
    ∃ text, withinBounds (.integer n) type = .ok text ∧
      Number.parse text = .ok (some (.integer n)) := by
  obtain ⟨-, hleast, -, -, hgreatest⟩ := TypeText.integralBounds?_cases hbounds
  have hfloat := (TypeText.numeric_of_integralBounds? hbounds).2
  have hnotlt : Number.compare (.integer n) (.integer least) ≠ .lt := by
    rw [Number.compare_integer, Int.compare_ne_lt]
    exact hlow
  have hnotgt : Number.compare (.integer n) (.integer greatest) ≠ .gt := by
    rw [Number.compare_integer, Int.compare_ne_gt]
    exact hhigh
  have hinteger : (Number.integer n).toInteger = .ok n := rfl
  obtain ⟨text, htext⟩ := Number.returns_format_integral hfloat hinteger (by omega)
  obtain ⟨m, hm, hparse⟩ := Number.parse_format hfloat htext
  obtain rfl : n = m := Except.ok.inj hm
  refine ⟨text, ?_, hparse⟩
  simp only [withinBounds, hbounds, hnotlt, hnotgt, if_false]
  exact htext

/-- **An integer literal strictly between the bounds of an integral type gives a comparison both
truths.** -/
theorem comparisonValue_integer {type operand : String} {operator : Comparator}
    {least greatest k : Int}
    (hbounds : TypeText.integralBounds? (TypeText.base type) = some (least, greatest))
    (hknown : operator ∈ Comparator.all) (hparse : Number.parse operand = .ok (some (.integer k)))
    (hlow : least < k) (hhigh : k < greatest) (desired : Bool) :
    ∃ text n, comparisonValue type operator operand desired = .ok text ∧
      Number.parse text = .ok (some (.integer n)) ∧
      operator.holds? (compare n k) = some desired := by
  have hnumeric := (TypeText.numeric_of_integralBounds? hbounds).1
  obtain ⟨n, hn, hlower, hupper, hholds⟩ := askedBoundary_integer hknown k desired
  obtain ⟨text, htext, hread⟩ := withinBounds_integer hbounds (n := n) (by omega) (by omega)
  refine ⟨text, n, ?_, hread, hholds⟩
  rw [comparisonValue_of_number (by simp [hparse]), hparse, ok_bind, Option.elim_some,
    if_pos hnumeric, hn, htext]

/-! ### Atoms -/

/-- The values of atoms are readable. -/
theorem forAtom_readable {parameter : Parameter} {shape : Option AtomShape} {desired : Bool}
    {known : Bindings} {text : String} (h : forAtom parameter shape desired known = .ok text) :
    Readable text := by
  match shape with
  | none =>
    obtain rfl := Except.ok.inj h
    exact neutral_readable _
  | some (.boolean _) =>
    obtain rfl := Except.ok.inj h
    refine readable_ite (readable_ite ?_ ?_) (neutral_readable _)
    · exact readable_of_startsOtherwise (by decide)
    · exact readable_of_startsOtherwise (by decide)
  | some (.emptiness _ predicate) =>
    obtain rfl := Except.ok.inj h
    exact emptinessValue_readable _ predicate desired
  | some (.comparison _ _ _) => exact comparisonValue_readable h

/-- The truth of an atom depends on what is bound to names only. -/
theorem atomHolds_congr {shape : AtomShape} {value : String} {known known' : Bindings}
    (h : ∀ name, known.get? name = known'.get? name) :
    atomHolds shape value known = atomHolds shape value known' := by
  cases shape with
  | boolean _ => rfl
  | emptiness _ _ => rfl
  | comparison _ operator operand => simp only [atomHolds, h]

/-- Two texts that can be read can be compared. -/
theorem returns_compareTexts (operator : Comparator) {value operand : String}
    (hvalue : Returns (Number.parse value)) (hoperand : Returns (Number.parse operand)) :
    Returns (compareTexts operator value operand) := by
  obtain ⟨left, hleft⟩ := Number.returns_ofConstant_iff.2 hvalue
  obtain ⟨right, hright⟩ := Number.returns_ofConstant_iff.2 hoperand
  cases operator with
  | unknown text => exact returns_ok _
  | _ =>
    refine returns_bind_iff.2 ⟨left, hleft, ?_⟩
    refine returns_bind_iff.2 ⟨right, hright, ?_⟩
    split <;> exact returns_ok _

/-- The truth of an atom can be told from a readable value if the atom has a value. -/
theorem returns_atomHolds {parameter : Parameter} {shape : AtomShape} {desired : Bool}
    {value : String} {known : Bindings} (hvalue : Readable value)
    (h : Returns (forAtom parameter (some shape) desired known)) :
    Returns (atomHolds shape value known) := by
  cases shape with
  | boolean _ => exact returns_ok _
  | emptiness _ _ => exact returns_ok _
  | comparison _ operator operand =>
    simp only [atomHolds]
    cases operator with
    | none => exact returns_ok _
    | some operator =>
      have hoperand := Number.returns_parse_iff.2 (returns_comparisonValue_iff.1 h).1
      generalize trimmed (operand.getD "") = text at hoperand ⊢
      have hread : Returns (Number.parse ((known.get? text).elim text trimmed)) := by
        cases hbound : known.get? text with
        | none => simpa [hbound] using hoperand
        | some bound => simpa [hbound] using hoperand
      exact returns_compareTexts operator (readable_trimmed_iff.2 hvalue).returns_parse hread

/-- A comparison of two integers is told by their order. -/
theorem atomHolds_integer {subject operand value : String} {operator : Comparator} {n k : Int}
    {known : Bindings} (hknown : operator ∈ Comparator.all)
    (hunbound : known.get? (trimmed operand) = none)
    (hvalue : Number.ofConstant value = .ok (some (.integer n)))
    (hoperand : Number.parse operand = .ok (some (.integer k))) :
    atomHolds (.comparison subject (some operator) (some operand)) value known
      = .ok (operator.holds? (compare n k)) := by
  have hleft : Number.ofConstant (trimmed value) = .ok (some (.integer n)) := by
    rw [Number.ofConstant_trimmed, hvalue]
  have hright : Number.ofConstant (trimmed operand) = .ok (some (.integer k)) :=
    Number.ofConstant_of_parse (by rw [Number.parse_trimmed, hoperand])
  simp only [atomHolds, Option.getD_some, hunbound, Option.elim_none]
  cases operator with
  | unknown text => exact absurd hknown (by simp [Comparator.all])
  | _ =>
    refine bind_eq_ok_iff.2 ⟨_, hleft, ?_⟩
    exact bind_eq_ok_iff.2 ⟨_, hright, rfl⟩

end Value

end BranchCover
