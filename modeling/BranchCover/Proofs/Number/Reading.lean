import BranchCover.Proofs.Except
import BranchCover.Proofs.Number.Literal
import Mathlib.Tactic.Ring

/-!
# Numbers read and written

A number that is written as a literal of an integral type reads back as the same integer. A floating
number is written with a point, an exponent or as an infinity, so it never reads back as an integer.

* `Number.returns_parse_iff`: the texts that can be read.
* `Number.parse_format`: literals of integral types read back.
* `Number.parse_of_mem`: a text with a mark that no integer literal has is not read as an integer.
* `Number.toInteger_of_compare`: the integer part of a number between bounds lies between them.
* `Binary64.ofInt_eq_finite`: an integer that is not too large is a finite floating number.
-/

namespace BranchCover

namespace Number

@[simp] theorem parse_trimmed (text : String) : parse (trimmed text) = parse text := by
  simp [parse]

@[simp] theorem returns_ofConstant_iff {text : String} :
    Returns (ofConstant text) ↔ Returns (parse text) := returns_map_iff

@[simp] theorem ofConstant_trimmed (text : String) :
    ofConstant (trimmed text) = ofConstant text := by
  simp [ofConstant]

theorem ofConstant_of_parse {text : String} {number : Number}
    (h : parse text = .ok (some number)) : ofConstant text = .ok (some number) := by
  rw [ofConstant, h]
  rfl

/-- The value of a text is that of the literal that is written as it. -/
theorem parse_of_literal {text : String} {literal : Literal.NumberLiteral}
    (hwf : literal.WellFormed) (htext : literal.text = Text.trim text.toList) :
    parse text = (ofLiteral literal).map some := by
  rw [parse, Literal.NumberLiteral.read?_eq_some_iff.2 ⟨hwf, htext⟩]

/-! ### Literals with too many digits -/

theorem returns_readInteger_iff {negative : Bool} {digits : List Char} :
    Returns (readInteger negative digits) ↔ digits.length ≤ Text.maxIntegerDigits := by
  unfold readInteger
  by_cases h : digits.length ≤ Text.maxIntegerDigits
  · rw [if_pos h]
    exact iff_of_true (returns_ok _) h
  · rw [if_neg h]
    exact iff_of_false (not_returns_error _) h

end Number

namespace Literal

/-- An integer literal has no more digits than are read. -/
def IntegerLiteral.Short (literal : IntegerLiteral) : Prop :=
  literal.digits.length ≤ Text.maxIntegerDigits

/-- A number literal that is an integer has no more digits than are read. -/
def NumberLiteral.Short (literal : NumberLiteral) : Prop :=
  literal.fraction = [] → literal.suffix.any floatingSuffixes.contains = false →
    (Number.plainDigits literal.whole).length ≤ Text.maxIntegerDigits

theorem IntegerLiteral.returns_value_iff {literal : IntegerLiteral} :
    Returns literal.value ↔ literal.Short := Number.returns_readInteger_iff

end Literal

namespace Number

/-- A text cannot be read exactly if it is an integer literal of too many digits. -/
theorem returns_parse_iff {text : String} :
    Returns (parse text) ↔
      ∀ literal ∈ Literal.NumberLiteral.read? (Text.trim text.toList), literal.Short := by
  unfold parse
  cases Literal.NumberLiteral.read? (Text.trim text.toList) with
  | none => simp
  | some literal =>
    dsimp only
    rw [returns_map_iff, ofLiteral]
    have hmem : (∀ found ∈ some literal, found.Short) ↔ literal.Short := by simp
    rw [hmem, Literal.NumberLiteral.Short]
    cases hfraction : literal.fraction with
    | cons c rest => simp
    | nil =>
      cases hsuffix : literal.suffix.any Literal.floatingSuffixes.contains with
      | true => simp
      | false => simp [returns_readInteger_iff]

/-! ### Integers -/

/-- The parts of the literal of an integer with a type suffix. -/
def integerLiteral (n : Int) (suffix : Option Char) : Literal.NumberLiteral where
  negative := n < 0
  whole := Nat.toDigits 10 n.natAbs
  fraction := []
  suffix

theorem isDigit_of_mem_integerLiteral {n : Int} {suffix : Option Char} {c : Char}
    (h : c ∈ (integerLiteral n suffix).whole) : c.isDigit = true :=
  Nat.isDigit_of_mem_toDigits (by omega) le_rfl h

theorem integerLiteral_wellFormed {n : Int} {suffix : Option Char} (h : ∀ c ∈ suffix, c = 'L') :
    (integerLiteral n suffix).WellFormed where
  first := by
    have hne : Nat.toDigits 10 n.natAbs ≠ [] := Nat.toDigits_ne_nil
    obtain ⟨c, rest, hc⟩ := List.exists_cons_of_ne_nil hne
    have hdigit : c.isDigit = true :=
      Nat.isDigit_of_mem_toDigits (by omega) le_rfl (hc ▸ List.mem_cons_self)
    exact ⟨c, rest, hc, Text.isDecimal_of_isDigit hdigit⟩
  whole c hc := by
    simp [Literal.isWholeDigit, Text.isDecimal_of_isDigit (isDigit_of_mem_integerLiteral hc)]
  fraction c hc := by simp [integerLiteral] at hc
  suffix c hc := by simp [h c hc, Literal.numberSuffixes]

theorem text_integerLiteral (n : Int) (suffix : Option Char) :
    (integerLiteral n suffix).text = (intText n).toList ++ suffix.toList := by
  by_cases hn : n < 0 <;> simp [integerLiteral, Literal.NumberLiteral.text, intText, hn]

/-- The literal of an integer has no blank in it. -/
theorem isBlank_of_mem_integerLiteral {n : Int} {suffix : Option Char} (h : ∀ c ∈ suffix, c = 'L')
    {c : Char} (hc : c ∈ (integerLiteral n suffix).text) : Text.isBlank c = false := by
  simp only [Literal.NumberLiteral.text, List.mem_append, List.append_nil, integerLiteral, if_true,
    or_assoc] at hc
  rcases hc with hc | hc | hc
  · obtain ⟨-, rfl⟩ : n < 0 ∧ c = '-' := by simpa using hc
    decide
  · exact Text.isBlank_of_isDigit (Nat.isDigit_of_mem_toDigits (by omega) le_rfl hc)
  · rw [h c (Option.mem_toList.1 hc)]
    decide

theorem trim_integerLiteral {n : Int} {suffix : Option Char} (h : ∀ c ∈ suffix, c = 'L') :
    Text.trim (integerLiteral n suffix).text = (integerLiteral n suffix).text :=
  Text.trim_eq_self (fun _ hc => isBlank_of_mem_integerLiteral h (List.mem_of_mem_head? hc))
    fun _ hc => isBlank_of_mem_integerLiteral h (List.mem_of_mem_getLast? hc)

/-- Digits without underscores are plain. -/
theorem plainDigits_eq_self {digits : List Char} (h : ∀ c ∈ digits, Text.isDecimal c = true) :
    plainDigits digits = digits := by
  refine List.filter_eq_self.2 fun c hc => ?_
  have hne : c ≠ '_' := by
    rintro rfl
    exact absurd (h _ hc) (by decide)
  simpa using hne

theorem plainDigits_toDigits (n : ℕ) : plainDigits (Nat.toDigits 10 n) = Nat.toDigits 10 n :=
  plainDigits_eq_self fun _ hc => Text.isDecimal_of_isDigit
    (Nat.isDigit_of_mem_toDigits (by omega) le_rfl hc)

/-- The suffix of a long literal is not that of a floating one. -/
theorem any_floatingSuffixes_eq_false {suffix : Option Char} (h : ∀ c ∈ suffix, c = 'L') :
    suffix.any Literal.floatingSuffixes.contains = false := by
  cases suffix with
  | none => rfl
  | some c => rw [h c rfl]; decide

/-- The literal of an integer is written as its decimal text and the suffix. -/
theorem text_eq_trim_intText {n : Int} {suffix : Option Char} (h : ∀ c ∈ suffix, c = 'L') :
    (integerLiteral n suffix).text =
      Text.trim (intText n ++ String.ofList suffix.toList).toList := by
  rw [String.toList_append, String.toList_ofList, ← text_integerLiteral, trim_integerLiteral h]

theorem ofLiteral_integerLiteral {n : Int} {suffix : Option Char} (h : ∀ c ∈ suffix, c = 'L')
    (hlen : (Nat.toDigits 10 n.natAbs).length ≤ Text.maxIntegerDigits) :
    ofLiteral (integerLiteral n suffix) = .ok (.integer n) := by
  have hplain : plainDigits (integerLiteral n suffix).whole = Nat.toDigits 10 n.natAbs :=
    plainDigits_toDigits _
  simp only [ofLiteral, hplain, readInteger, hlen, if_true, Text.digitsValue_toDigits]
  simp only [integerLiteral, any_floatingSuffixes_eq_false h, List.isEmpty_nil, Bool.not_true,
    Bool.or_false, Bool.false_eq_true, if_false, decide_eq_true_eq, Except.map, Except.ok.injEq,
    integer.injEq]
  split <;> omega

theorem parse_intText {n : Int} (suffix : Option Char) (h : ∀ c ∈ suffix, c = 'L')
    (hlen : (Nat.toDigits 10 n.natAbs).length ≤ Text.maxIntegerDigits) :
    parse (intText n ++ String.ofList suffix.toList) = .ok (some (.integer n)) := by
  rw [parse_of_literal (integerLiteral_wellFormed h) (text_eq_trim_intText h),
    ofLiteral_integerLiteral h hlen]
  rfl

theorem returns_writeInteger {n : Int} (h : n.natAbs < 10 ^ 20) : Returns (writeInteger n) := by
  have hlen : (Nat.toDigits 10 n.natAbs).length ≤ 20 :=
    (Nat.length_toDigits_le_iff (by omega) (by omega)).2 h
  have hmax : Text.maxIntegerDigits = 4300 := rfl
  rw [writeInteger, if_pos (by omega)]
  exact returns_ok _

/-- A number with an integer part of few digits has a literal of every type that is not floating. -/
theorem returns_format_integral {number : Number} {type : String} {n : Int}
    (htype : TypeText.base type ∉ TypeText.floatingNames) (hn : number.toInteger = .ok n)
    (h : n.natAbs < 10 ^ 20) : Returns (number.format type) := by
  simp only [format, htype, if_false]
  obtain ⟨written, hwritten⟩ := returns_writeInteger h
  exact returns_bind_iff.2 ⟨n, hn, returns_bind_iff.2 ⟨written, hwritten, returns_ok _⟩⟩

/-- **What is written as a literal of an integral type reads back.** -/
theorem parse_format {number : Number} {type text : String}
    (htype : TypeText.base type ∉ TypeText.floatingNames) (h : number.format type = .ok text) :
    ∃ n, number.toInteger = .ok n ∧ parse text = .ok (some (.integer n)) := by
  simp only [format, htype, if_false] at h
  obtain ⟨n, hn, h⟩ := bind_eq_ok_iff.1 h
  obtain ⟨written, hwritten, h⟩ := bind_eq_ok_iff.1 h
  refine ⟨n, hn, ?_⟩
  unfold writeInteger at hwritten
  split at hwritten
  · rename_i hlen
    have hw : intText n = written := Except.ok.inj hwritten
    have ht : (if TypeText.base type ∈ TypeText.longNames then written ++ "L" else written) =
        text :=
      Except.ok.inj h
    rw [← ht, ← hw]
    split_ifs
    · exact parse_intText (some 'L') (by simp) hlen
    · simpa using parse_intText none (by simp) hlen
  · cases hwritten

/-! ### Texts that are no integers -/

/-- A text with a character that no integer literal has is read, but not as an integer. -/
theorem parse_of_mem {text : String} {c : Char} (hc : c ∈ text.toList)
    (hblank : Text.isBlank c = false) (hdigit : Literal.isWholeDigit c = false)
    (hother : c ∉ ['-', 'L', 'l']) :
    ∃ number, parse text = .ok number ∧ ∀ n, number ≠ some (.integer n) := by
  rw [← Text.mem_trim_iff hblank] at hc
  unfold parse
  split
  · rename_i literal hread
    obtain ⟨hwf, htext⟩ := Literal.NumberLiteral.read?_eq_some_iff.1 hread
    simp only [ofLiteral]
    split
    · exact ⟨_, rfl, by simp⟩
    · rename_i hinteger
      -- without fraction and floating suffix the text is sign, digits and `L`, so `c` is not in it
      exfalso
      simp only [Bool.or_eq_true, not_or, Bool.not_eq_true, Bool.not_eq_false',
        List.isEmpty_iff] at hinteger
      simp only [← htext, Literal.NumberLiteral.text, hinteger.1, if_true, List.append_nil,
        List.mem_append] at hc
      rcases hc with (hc | hc) | hc
      · obtain ⟨-, rfl⟩ : literal.negative = true ∧ c = '-' := by simpa using hc
        simp at hother
      · simp [hwf.whole c hc] at hdigit
      · have hsuffix : literal.suffix = some c := Option.mem_toList.1 hc
        have hmem := hwf.suffix c hsuffix
        simp only [hsuffix, Option.any_some] at hinteger
        simp only [Literal.numberSuffixes, List.mem_cons, List.not_mem_nil, or_false] at hmem
        rcases hmem with rfl | rfl | rfl | rfl | rfl | rfl <;>
          simp [Literal.floatingSuffixes] at hinteger hother
  · exact ⟨none, rfl, by simp⟩

/-- A text that starts with no blank, sign or digit is no number. -/
theorem parse_of_head {text : String} {c : Char} (hc : text.toList.head? = some c)
    (hblank : Text.isBlank c = false) (hdigit : Text.isDecimal c = false) (hsign : c ≠ '-') :
    parse text = .ok none := by
  obtain ⟨rest, hrest⟩ : ∃ rest, text.toList = c :: rest := List.head?_eq_some_iff.1 hc
  obtain ⟨kept, hkept⟩ : ∃ kept, Text.trim text.toList = c :: kept := by
    have hstart : Text.trimStart (c :: rest) = c :: rest := by simp [Text.trimStart, hblank]
    rw [hrest, Text.trim, hstart, Text.trimEnd, Text.dropEndWhile]
    split
    · exact ⟨[], by simp [hblank]⟩
    · exact ⟨_, rfl⟩
  unfold parse
  rw [hkept, Literal.NumberLiteral.read?]
  · simp [Literal.readUnsigned?, hdigit]
  · intro _ heq
    exact hsign (List.cons.inj heq).1

end Number

/-! ### Floating numbers -/

namespace Binary64

theorem exists_mark_layout (digits : List Char) (leading : Int) :
    ∃ c ∈ layout digits leading, c = '.' ∨ c = 'e' := by
  by_cases hexp : leading < -4 ∨ 16 ≤ leading
  · exact ⟨'e', by simp [layout, hexp], Or.inr rfl⟩
  · by_cases hneg : leading < 0
    · exact ⟨'.', by simp [layout, hexp, hneg], Or.inl rfl⟩
    · exact ⟨'.', by simp [layout, hexp, hneg], Or.inl rfl⟩

/-- The text of a floating number has a point, an exponent or the letters of an infinity. -/
theorem exists_mark_text (x : Binary64) : ∃ c ∈ x.text.toList, c = '.' ∨ c = 'e' ∨ c = 'n' := by
  cases x with
  | infinite negative => cases negative <;> exact ⟨'n', by simp [text], by simp⟩
  | finite negative significand exponent =>
    have hbody : ∃ c ∈ (if significand = 0 then ['0', '.', '0'] else
        layout (Nat.toDigits 10 (withoutZeros 20 (shortest significand exponent).1
          (shortest significand exponent).2).1)
          ((withoutZeros 20 (shortest significand exponent).1 (shortest significand exponent).2).2
            + (Nat.toDigits 10 (withoutZeros 20 (shortest significand exponent).1
              (shortest significand exponent).2).1).length - 1)), c = '.' ∨ c = 'e' := by
      split_ifs
      · exact ⟨'.', by simp, Or.inl rfl⟩
      · exact exists_mark_layout _ _
    obtain ⟨c, hc, hmark⟩ := hbody
    refine ⟨c, ?_, by tauto⟩
    simp only [text, String.toList_ofList]
    cases negative
    · exact hc
    · exact List.mem_cons_of_mem _ hc

theorem floorLog2_one_le (num : ℕ) : floorLog2 num 1 ≤ num.log2 := by
  have hguess : (num.log2 : Int) - Nat.log2 1 = num.log2 := by
    rw [show Nat.log2 1 = 0 from rfl, Nat.cast_zero, sub_zero]
  simp only [floorLog2, hguess]
  split <;> omega

/-- An integer that is not too large is a finite floating number. -/
theorem ofInt_eq_finite {n : Int} (h : n.natAbs.log2 ≤ 1022) :
    ∃ negative significand exponent, ofInt n = finite negative significand exponent := by
  unfold ofInt ofRatio
  by_cases hzero : n.natAbs = 0
  · exact ⟨_, _, _, if_pos hzero⟩
  · have hlog := floorLog2_one_le n.natAbs
    have hexp : max minExponent (floorLog2 n.natAbs 1 - 52) ≤ 970 := by
      simp only [minExponent]
      omega
    -- rounding up moves the exponent by one at most
    simp only [hzero, if_false]
    split <;> split
    · rename_i hlarge
      simp only [maxExponent] at hlarge
      omega
    · exact ⟨_, _, _, rfl⟩
    · rename_i hlarge
      simp only [maxExponent] at hlarge
      omega
    · exact ⟨_, _, _, rfl⟩

end Binary64

namespace Number

theorem compare_integer (m n : Int) : compare (.integer m) (.integer n) = Ord.compare m n := rfl

/-- The comparison of a finite floating number with an integer, over the denominator of its
integer part. -/
theorem compare_finite {negative : Bool} {significand : ℕ} {exponent n : Int} :
    compare (.floating (.finite negative significand exponent)) (.integer n)
      = Ord.compare (Binary64.signed negative (Binary64.scale significand 1 exponent).1)
          (n * (Binary64.scale significand 1 exponent).2) := by
  simp only [compare, Binary64.compareInt, Binary64.align, Binary64.scale, Int.compare_swap]
  by_cases hexp : 0 ≤ exponent
  · cases negative <;> simp [Binary64.signed, hexp, neg_mul]
  · have htarget : min 0 exponent = exponent := by omega
    simp [hexp, htarget]

theorem toInteger_finite (negative : Bool) (significand : ℕ) (exponent : Int) :
    toInteger (.floating (.finite negative significand exponent))
      = .ok (Binary64.signed negative ((Binary64.scale significand 1 exponent).1
          / (Binary64.scale significand 1 exponent).2)) := rfl

/-- The integer part of a number between bounds on both sides of zero lies between them. -/
theorem toInteger_of_compare {number : Number} {least greatest : Int} (hleast : least ≤ 0)
    (hgreatest : 0 ≤ greatest) (hlow : number.compare (.integer least) ≠ .lt)
    (hhigh : number.compare (.integer greatest) ≠ .gt) :
    ∃ n, number.toInteger = .ok n ∧ least ≤ n ∧ n ≤ greatest := by
  match number with
  | .integer n =>
    rw [compare_integer] at hlow hhigh
    exact ⟨n, rfl, Int.compare_ne_lt.1 hlow, Int.compare_ne_gt.1 hhigh⟩
  | .floating (.infinite negative) =>
    cases negative <;> simp [compare, Binary64.compareInt] at hlow hhigh
  | .floating (.finite negative significand exponent) =>
    rw [compare_finite] at hlow hhigh
    rw [Int.compare_ne_lt] at hlow
    rw [Int.compare_ne_gt] at hhigh
    have hpos : 0 < (Binary64.scale significand 1 exponent).2 := by
      unfold Binary64.scale
      split <;> simp
    refine ⟨_, toInteger_finite negative significand exponent, ?_⟩
    generalize (Binary64.scale significand 1 exponent).1 = num at hlow hhigh ⊢
    generalize (Binary64.scale significand 1 exponent).2 = den at hlow hhigh hpos ⊢
    cases negative with
    | false =>
      simp only [Binary64.signed, Bool.false_eq_true, if_false] at hlow hhigh ⊢
      have hquotient : num / den ≤ greatest.toNat := by
        refine Nat.div_le_of_le_mul (Int.ofNat_le.1 ?_)
        rw [Nat.cast_mul, Int.toNat_of_nonneg hgreatest, mul_comm]
        exact hhigh
      generalize num / den = quotient at hquotient ⊢
      omega
    | true =>
      simp only [Binary64.signed, if_true] at hlow hhigh ⊢
      have hquotient : num / den ≤ (-least).toNat := by
        refine Nat.div_le_of_le_mul (Int.ofNat_le.1 ?_)
        rw [Nat.cast_mul, Int.toNat_of_nonneg (by omega), mul_comm, neg_mul]
        omega
      generalize num / den = quotient at hquotient ⊢
      omega

end Number

namespace Literal

/-! ### Rows of ones -/

theorem trim_ones (n : ℕ) : Text.trim (List.replicate n '1') = List.replicate n '1' := by
  have hblank : ∀ c ∈ List.replicate n '1', Text.isBlank c = false := fun c hc => by
    rw [List.eq_of_mem_replicate hc]
    decide
  exact Text.trim_eq_self (fun c hc => hblank c (List.mem_of_mem_head? hc))
    fun c hc => hblank c (List.mem_of_mem_getLast? hc)

/-- A row of ones is a number literal. -/
theorem NumberLiteral.read?_ones (n : ℕ) :
    NumberLiteral.read? (List.replicate (n + 1) '1') =
      some ⟨false, List.replicate (n + 1) '1', [], none⟩ := by
  refine NumberLiteral.read?_eq_some_iff.2 ⟨⟨⟨'1', List.replicate n '1', rfl, by decide⟩, ?_, ?_,
    ?_⟩, ?_⟩
  · intro c hc
    rw [List.eq_of_mem_replicate hc]
    decide
  · intro c hc
    cases hc
  · intro c hc
    cases hc
  · simp [NumberLiteral.text]

end Literal

end BranchCover
