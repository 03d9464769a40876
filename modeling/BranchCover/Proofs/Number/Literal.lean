import BranchCover.Number.Basic
import BranchCover.Proofs.Text.Trim

/-!
# Reading number literals

`NumberLiteral.text` writes the parts of a literal one after another. Reading inverts it: a text is
read as exactly those well-formed parts whose text it is.

* `Text.digitsValue_toDigits`: the decimal digits of a number denote it.
* `NumberLiteral.WellFormed.of_mem_text`: the characters of a literal.
* `NumberLiteral.read?_eq_some_iff`: what a text is read as.
-/

namespace BranchCover

namespace Text

theorem toNat_of_isDigit {c : Char} (h : c.isDigit = true) : 48 ≤ c.toNat ∧ c.toNat ≤ 57 :=
  Char.isDigit_iff_toNat.1 h

theorem digitValue?_of_isDigit {c : Char} (h : c.isDigit = true) :
    digitValue? c = some (c.toNat - 48) := by
  have hlt : c.toNat < 128 := by
    have := toNat_of_isDigit h
    omega
  simp [digitValue?, hlt, h]

theorem isDecimal_of_isDigit {c : Char} (h : c.isDigit = true) : isDecimal c = true := by
  simp [isDecimal, digitValue?_of_isDigit h]

/-- No digit of any script is a blank. -/
theorem isBlank_of_isDecimal {c : Char} (h : isDecimal c = true) : isBlank c = false := by
  unfold isDecimal digitValue? at h
  unfold isBlank
  by_cases hascii : c.toNat < 128
  · rw [if_pos hascii] at h ⊢
    by_cases hdigit : c.isDigit = true
    · have hc := toNat_of_isDigit hdigit
      simp
      omega
    · simp [hdigit] at h
  · rw [if_neg hascii] at h ⊢
    simp only [Option.isSome_map, List.find?_isSome, Bool.and_eq_true, decide_eq_true_iff] at h
    obtain ⟨first, hfirst, hlow, hhigh⟩ := h
    -- no run of digits meets a range of blanks
    have hapart : ∀ first ∈ zeroDigits, ∀ range ∈ blankRanges, first + 10 ≤ range.1 ∨
      range.2 < first := by decide
    refine List.any_eq_false.2 fun range hrange => ?_
    have := hapart first hfirst range hrange
    simp
    omega

theorem isBlank_of_isDigit {c : Char} (h : c.isDigit = true) : isBlank c = false :=
  isBlank_of_isDecimal (isDecimal_of_isDigit h)

theorem digitsValue_eq_ofDigitChars {digits : List Char} (h : ∀ c ∈ digits, c.isDigit = true) :
    digitsValue digits = Nat.ofDigitChars 10 digits 0 := by
  rw [digitsValue, Nat.ofDigitChars_eq_foldl]
  refine List.foldl_ext _ _ 0 fun n c hc => ?_
  rw [digitValue?_of_isDigit (h c hc)]
  rfl

/-- The decimal digits of a number denote it. -/
theorem digitsValue_toDigits (n : ℕ) : digitsValue (Nat.toDigits 10 n) = n := by
  rw [digitsValue_eq_ofDigitChars fun c hc => Nat.isDigit_of_mem_toDigits (by omega) le_rfl hc]
  exact Nat.ofDigitChars_ten_toDigits

end Text

namespace Literal

/-- The text that the parts of a number literal are written as. -/
def NumberLiteral.text (literal : NumberLiteral) : List Char :=
  (if literal.negative then ['-'] else []) ++ literal.whole
    ++ (if literal.fraction = [] then [] else '.' :: literal.fraction) ++ literal.suffix.toList

/-- The parts of a number literal are what they have to be. -/
structure NumberLiteral.WellFormed (literal : NumberLiteral) : Prop where
  first : ∃ c rest, literal.whole = c :: rest ∧ Text.isDecimal c = true
  whole : ∀ c ∈ literal.whole, isWholeDigit c = true
  fraction : ∀ c ∈ literal.fraction, Text.isDecimal c = true
  suffix : ∀ c ∈ literal.suffix, c ∈ numberSuffixes

/-- The characters that a number literal is written with. -/
theorem NumberLiteral.WellFormed.of_mem_text {literal : NumberLiteral} (h : literal.WellFormed)
    {c : Char}
    (hc : c ∈ literal.text) : Text.isDecimal c = true ∨
    c ∈ '-' :: '.' :: '_' :: numberSuffixes := by
  simp only [NumberLiteral.text, List.mem_append] at hc
  rcases hc with ((hc | hc) | hc) | hc
  · obtain ⟨-, rfl⟩ : literal.negative = true ∧ c = '-' := by simpa using hc
    exact Or.inr (by simp)
  · exact (Bool.or_eq_true_iff.1 (h.whole c hc)).imp_right fun hc => by simp_all
  · split_ifs at hc
    · cases hc
    · rcases List.mem_cons.1 hc with rfl | hdigit
      · exact Or.inr (by simp)
      · exact Or.inl (h.fraction c hdigit)
  · exact Or.inr (by simp [h.suffix c (Option.mem_toList.1 hc)])

theorem splitFraction_eq (text : List Char) :
    (if (splitFraction text).1 = [] then [] else '.' :: (splitFraction text).1)
      ++ (splitFraction text).2 = text := by
  unfold splitFraction
  split
  · rename_i rest
    split
    · simp
    · rename_i hne
      rw [if_neg hne, List.cons_append, List.takeWhile_append_dropWhile]
  · simp

theorem isDecimal_of_mem_splitFraction {text : List Char} {c : Char}
    (h : c ∈ (splitFraction text).1) : Text.isDecimal c = true := by
  unfold splitFraction at h
  split at h
  · split at h
    · simp at h
    · exact List.mem_takeWhile_imp h
  · simp at h

/-- A fraction is read up to the first character that is no digit. -/
theorem splitFraction_append {fraction rest : List Char}
    (hfraction : ∀ c ∈ fraction, Text.isDecimal c = true)
    (hrest : ∀ c, rest.head? = some c → Text.isDecimal c = false ∧ c ≠ '.') :
    splitFraction ((if fraction = [] then [] else '.' :: fraction) ++ rest) = (fraction, rest) := by
  by_cases hne : fraction = []
  · subst hne
    cases rest with
    | nil => rfl
    | cons c rest => simp [splitFraction, (hrest c rfl).2]
  · have htake := Text.takeWhile_append_eq hfraction fun c hc => (hrest c hc).1
    have hdrop := Text.dropWhile_append_eq hfraction fun c hc => (hrest c hc).1
    simp only [hne, if_false, List.cons_append, splitFraction, htake, hdrop]

theorem readUnsigned?_eq_some {negative : Bool} {text : List Char} {literal : NumberLiteral}
    (h : readUnsigned? negative text = some literal) :
    literal.WellFormed ∧ literal.negative = negative ∧
      literal.text = (if negative then ['-'] else []) ++ text := by
  cases text with
  | nil => simp [readUnsigned?] at h
  | cons first text =>
    simp only [readUnsigned?] at h
    split at h
    · rename_i hfirst
      have hwhole : isWholeDigit first = true := by simp [isWholeDigit, hfirst]
      have hsplit := splitFraction_eq ((first :: text).dropWhile isWholeDigit)
      have hdigits := fun c => @isDecimal_of_mem_splitFraction
        ((first :: text).dropWhile isWholeDigit) c
      have hparts := List.takeWhile_append_dropWhile (p := isWholeDigit) (l := first :: text)
      have hstart : ∃ c rest, (first :: text).takeWhile isWholeDigit = c :: rest ∧
          Text.isDecimal c = true :=
        ⟨first, text.takeWhile isWholeDigit, by simp [hwhole], hfirst⟩
      generalize splitFraction ((first :: text).dropWhile isWholeDigit) = parts at *
      obtain ⟨fraction, rest⟩ := parts
      -- what is left behind the fraction is nothing or the suffix
      dsimp only at *
      split at h
      · cases h
        refine ⟨⟨hstart, fun c hc => List.mem_takeWhile_imp hc, fun c => hdigits c, by simp⟩,
          rfl, ?_⟩
        simp only [NumberLiteral.text, List.append_assoc, Option.toList_none, hsplit, hparts]
      · rename_i c
        split at h
        · rename_i hc
          cases h
          refine ⟨⟨hstart, fun c hc => List.mem_takeWhile_imp hc, fun c => hdigits c, ?_⟩, rfl, ?_⟩
          · simpa using hc
          · simp only [NumberLiteral.text, List.append_assoc, Option.toList_some, hsplit, hparts]
        · cases h
      · cases h
    · cases h

theorem not_isWholeDigit_of_mem_numberSuffixes {c : Char} (h : c ∈ numberSuffixes) :
    isWholeDigit c = false ∧ Text.isDecimal c = false ∧ c ≠ '.' ∧ Text.isBlank c = false := by
  simp only [numberSuffixes, List.mem_cons, List.not_mem_nil, or_false] at h
  rcases h with rfl | rfl | rfl | rfl | rfl | rfl <;> decide

theorem readUnsigned?_text {literal : NumberLiteral} (h : literal.WellFormed) :
    readUnsigned? literal.negative (literal.whole
      ++ (if literal.fraction = [] then [] else '.' :: literal.fraction) ++ literal.suffix.toList)
      = some literal := by
  obtain ⟨negative, whole, fraction, suffix⟩ := literal
  obtain ⟨⟨first, rest, hw, hfirst⟩, hwhole, hfraction, hsuffix⟩ := h
  simp only at hw hwhole hfraction hsuffix ⊢
  subst hw
  have hend : ∀ c, suffix.toList.head? = some c → Text.isDecimal c = false ∧ c ≠ '.' := by
    intro c hc
    have hmem : c ∈ suffix := by cases suffix <;> simp_all
    have := not_isWholeDigit_of_mem_numberSuffixes (hsuffix c hmem)
    exact ⟨this.2.1, this.2.2.1⟩
  have hnext : ∀ c, ((if fraction = [] then [] else '.' :: fraction) ++ suffix.toList).head? =
    some c →
      isWholeDigit c = false := by
    intro c hc
    by_cases hf : fraction = []
    · have hmem : c ∈ suffix := by cases suffix <;> simp_all
      exact (not_isWholeDigit_of_mem_numberSuffixes (hsuffix c hmem)).1
    · simp only [hf, if_false, List.cons_append, List.head?_cons, Option.some.injEq] at hc
      subst hc
      decide
  have htake := Text.takeWhile_append_eq hwhole hnext
  have hdrop := Text.dropWhile_append_eq hwhole hnext
  rw [List.append_assoc]
  simp only [List.cons_append] at htake hdrop
  simp only [List.cons_append, readUnsigned?, hfirst, if_true, htake, hdrop,
    splitFraction_append hfraction hend]
  cases suffix with
  | none => rfl
  | some c => simp [hsuffix c rfl]

/-- **A text is read as exactly the well-formed parts that are written as it.** -/
theorem NumberLiteral.read?_eq_some_iff {text : List Char} {literal : NumberLiteral} :
    NumberLiteral.read? text = some literal ↔ literal.WellFormed ∧ literal.text = text := by
  constructor
  · intro h
    unfold NumberLiteral.read? at h
    split at h
    · obtain ⟨hwf, -, htext⟩ := readUnsigned?_eq_some h
      exact ⟨hwf, by simpa using htext⟩
    · obtain ⟨hwf, -, htext⟩ := readUnsigned?_eq_some h
      exact ⟨hwf, by simpa using htext⟩
  · rintro ⟨hwf, rfl⟩
    have hread := readUnsigned?_text hwf
    obtain ⟨c, rest, hw, hc⟩ := hwf.first
    cases hn : literal.negative with
    | true =>
      rw [hn] at hread
      simpa only [NumberLiteral.text, hn, if_true, List.cons_append, List.nil_append,
        NumberLiteral.read?] using hread
    | false =>
      rw [hn] at hread
      have hminus : c ≠ '-' := by
        rintro rfl
        exact absurd hc (by decide)
      simp only [NumberLiteral.text, hn, Bool.false_eq_true, if_false, List.nil_append, hw,
        List.cons_append] at hread ⊢
      rw [NumberLiteral.read?]
      · exact hread
      · intro rest' heq
        exact hminus (List.cons.inj heq).1

end Literal

end BranchCover
