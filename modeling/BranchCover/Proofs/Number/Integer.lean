import BranchCover.Proofs.Number.Reading

/-!
# Integer literals

A number literal without fraction and floating suffix denotes an integer, and so does an integer
literal of plain digits. How many digits they have counts only where they are read.

* `Number.signedValue`: the integer that a sign and digits denote.
* `IntegerLiteral.split?_eq_some_iff`: the integer at the head of a text goes on to the first
  character that is no digit.
* `IntegerLiteral.value_eq_ok_iff`, `Number.denotes_iff_of_parse`: literals are read as the integers
  that they denote.
-/

namespace BranchCover

namespace Number

/-- The integer that a sign and digits denote, however many digits there are. -/
def signedValue (negative : Bool) (digits : List Char) : Int :=
  if negative then -(Text.digitsValue digits : Int) else Text.digitsValue digits

theorem readInteger_eq_ok_iff {negative : Bool} {digits : List Char} {n : Int} :
    readInteger negative digits = .ok n ↔
      digits.length ≤ Text.maxIntegerDigits ∧ signedValue negative digits = n := by
  unfold readInteger
  by_cases h : digits.length ≤ Text.maxIntegerDigits
  · rw [if_pos h, Except.ok.injEq]
    exact (and_iff_right h).symm
  · rw [if_neg h]
    simp [h]

end Number

namespace Literal

/-! ### Plain digits -/

/-- The parts of an integer literal are what they have to be. -/
structure IntegerLiteral.WellFormed (literal : IntegerLiteral) : Prop where
  nonempty : literal.digits ≠ []
  decimal : ∀ c ∈ literal.digits, Text.isDecimal c = true

/-- The integer that a literal denotes. -/
def IntegerLiteral.integer (literal : IntegerLiteral) : Int :=
  Number.signedValue literal.negative literal.digits

theorem IntegerLiteral.value_eq_ok_iff {literal : IntegerLiteral} {n : Int} :
    literal.value = .ok n ↔ literal.Short ∧ literal.integer = n := Number.readInteger_eq_ok_iff

theorem IntegerLiteral.text_eq (literal : IntegerLiteral) :
    literal.text = (if literal.negative then ['-'] else []) ++ literal.digits := by
  unfold IntegerLiteral.text
  split_ifs <;> rfl

/-- A literal starts with its sign or its first digit. -/
theorem IntegerLiteral.WellFormed.head? {literal : IntegerLiteral} (h : literal.WellFormed) :
    ∃ c rest, literal.text = c :: rest ∧ (c = '-' ∨ Text.isDecimal c = true) := by
  obtain ⟨c, rest, hdigits⟩ := List.exists_cons_of_ne_nil h.nonempty
  have hc : Text.isDecimal c = true := h.decimal c (by simp [hdigits])
  unfold IntegerLiteral.text
  split_ifs
  · exact ⟨'-', _, rfl, Or.inl rfl⟩
  · exact ⟨c, rest, hdigits, Or.inr hc⟩

/-- A literal ends in a digit. -/
theorem IntegerLiteral.WellFormed.getLast? {literal : IntegerLiteral} (h : literal.WellFormed)
    {c : Char}
    (hc : literal.text.getLast? = some c) : Text.isDecimal c = true := by
  rw [IntegerLiteral.text_eq, List.getLast?_append_of_ne_nil _ h.nonempty] at hc
  exact h.decimal c (List.mem_of_getLast? hc)

theorem splitDigits?_eq_some_iff {negative : Bool} {text rest : List Char}
    {literal : IntegerLiteral} :
    splitDigits? negative text = some (literal, rest) ↔
      literal.negative = negative ∧ literal.WellFormed ∧ literal.digits ++ rest = text ∧
        ∀ c, rest.head? = some c → Text.isDecimal c = false := by
  constructor
  · intro h
    unfold splitDigits? at h
    split at h
    · cases h
    · rename_i hne
      obtain ⟨rfl, rfl⟩ := Prod.mk.inj (Option.some.inj h)
      refine ⟨rfl, ⟨hne, fun c hc => List.mem_takeWhile_imp hc⟩,
        List.takeWhile_append_dropWhile, ?_⟩
      intro c hc
      have hnot := List.head?_dropWhile_not Text.isDecimal text
      rw [hc] at hnot
      simpa using hnot
  · rintro ⟨rfl, hwf, rfl, hrest⟩
    have htake := Text.takeWhile_append_eq hwf.decimal hrest
    have hdrop := Text.dropWhile_append_eq hwf.decimal hrest
    unfold splitDigits?
    rw [htake, hdrop]
    split
    · rename_i hnil
      exact absurd hnil hwf.nonempty
    · rfl

/-- **The integer literal at the head of a text goes on to the first character that is no
digit.** -/
theorem IntegerLiteral.split?_eq_some_iff {text rest : List Char} {literal : IntegerLiteral} :
    IntegerLiteral.split? text = some (literal, rest) ↔
      literal.WellFormed ∧ literal.text ++ rest = text ∧
        ∀ c, rest.head? = some c → Text.isDecimal c = false := by
  constructor
  · intro h
    unfold IntegerLiteral.split? at h
    split at h
    · obtain ⟨hnegative, hwf, htext, hrest⟩ := splitDigits?_eq_some_iff.1 h
      exact ⟨hwf, by simp [IntegerLiteral.text_eq, hnegative, htext], hrest⟩
    · obtain ⟨hnegative, hwf, htext, hrest⟩ := splitDigits?_eq_some_iff.1 h
      exact ⟨hwf, by simp [IntegerLiteral.text_eq, hnegative, htext], hrest⟩
  · rintro ⟨hwf, rfl, hrest⟩
    rw [IntegerLiteral.text_eq]
    cases hnegative : literal.negative with
    | true => exact splitDigits?_eq_some_iff.2 ⟨hnegative, hwf, rfl, hrest⟩
    | false =>
      -- the first digit is no sign
      obtain ⟨c, digits, hdigits⟩ := List.exists_cons_of_ne_nil hwf.nonempty
      have hminus : c ≠ '-' := by
        rintro rfl
        exact absurd (hwf.decimal _ (by rw [hdigits]; exact List.mem_cons_self)) (by decide)
      have hsplit := splitDigits?_eq_some_iff.2 ⟨hnegative, hwf, rfl, hrest⟩
      rw [hdigits, List.cons_append] at hsplit
      simp only [Bool.false_eq_true, if_false, List.nil_append, hdigits, List.cons_append]
      unfold IntegerLiteral.split?
      split
      · rename_i heq
        exact absurd (List.cons.inj heq).1 hminus
      · exact hsplit

theorem IntegerLiteral.WellFormed.split?_text {literal : IntegerLiteral} (h : literal.WellFormed) :
    IntegerLiteral.split? literal.text = some (literal, []) :=
  IntegerLiteral.split?_eq_some_iff.2 ⟨h, List.append_nil _, by simp⟩

/-- A row of ones is an integer literal. -/
theorem IntegerLiteral.wellFormed_ones (n : ℕ) :
    (⟨false, List.replicate (n + 1) '1'⟩ : IntegerLiteral).WellFormed where
  nonempty := by simp
  decimal c hc := by
    rw [List.eq_of_mem_replicate hc]
    decide

theorem IntegerLiteral.split?_ones (n : ℕ) :
    IntegerLiteral.split? (List.replicate (n + 1) '1') =
      some (⟨false, List.replicate (n + 1) '1'⟩, []) :=
      (IntegerLiteral.wellFormed_ones n).split?_text

/-! ### Number literals -/

/-- An integer literal as a number literal with a type suffix. -/
def IntegerLiteral.toNumber (literal : IntegerLiteral) (suffix : Option Char) : NumberLiteral where
  negative := literal.negative
  whole := literal.digits
  fraction := []
  suffix

theorem IntegerLiteral.WellFormed.toNumber {literal : IntegerLiteral} (h : literal.WellFormed)
    {suffix : Option Char}
    (hsuffix : ∀ c ∈ suffix, c = 'L') : (literal.toNumber suffix).WellFormed where
  first := by
    obtain ⟨c, rest, hdigits⟩ := List.exists_cons_of_ne_nil h.nonempty
    exact ⟨c, rest, hdigits, h.decimal c (by simp [hdigits])⟩
  whole c hc := by simp [isWholeDigit, h.decimal c hc]
  fraction c hc := by cases hc
  suffix c hc := by simp [hsuffix c hc, numberSuffixes]

theorem IntegerLiteral.text_toNumber (literal : IntegerLiteral) (suffix : Option Char) :
    (literal.toNumber suffix).text = literal.text ++ suffix.toList := by
  rw [IntegerLiteral.text_eq, NumberLiteral.text, IntegerLiteral.toNumber]
  cases literal.negative <;> simp

/-- A number literal is an integer: it has neither a fraction nor the suffix of a floating type. -/
def NumberLiteral.IsInteger (literal : NumberLiteral) : Prop :=
  literal.fraction = [] ∧ literal.suffix.any floatingSuffixes.contains = false

instance (literal : NumberLiteral) : Decidable literal.IsInteger :=
  inferInstanceAs (Decidable (_ ∧ _))

/-- The integer that the sign and the digits of a number literal denote. -/
def NumberLiteral.integer (literal : NumberLiteral) : Int :=
  if literal.negative then -(Text.digitsValue (Number.plainDigits literal.whole) : Int)
  else Text.digitsValue (Number.plainDigits literal.whole)

theorem NumberLiteral.integer_eq (literal : NumberLiteral) :
    literal.integer = Number.signedValue literal.negative (Number.plainDigits literal.whole) := rfl

end Literal

namespace Number

/-- A text is an integer literal of a number, with blanks around: a sign, digits that underscores
may divide, and perhaps the suffix of a long one. -/
def Denotes (text : String) (n : Int) : Prop :=
  ∃ literal : Literal.NumberLiteral, literal.WellFormed ∧ literal.text = Text.trim text.toList ∧
    literal.IsInteger ∧ literal.integer = n

/-- A text denotes one integer at most. -/
theorem Denotes.unique {text : String} {m n : Int} (hm : Denotes text m) (hn : Denotes text n) :
    m = n := by
  obtain ⟨first, hfirst, htext, -, rfl⟩ := hm
  obtain ⟨second, hsecond, htext', -, rfl⟩ := hn
  have hread := Literal.NumberLiteral.read?_eq_some_iff.2 ⟨hfirst, htext⟩
  rw [Literal.NumberLiteral.read?_eq_some_iff.2 ⟨hsecond, htext'⟩] at hread
  rw [Option.some.inj hread]

/-- A text is a floating literal, with blanks around: it has a fraction or a floating suffix. -/
def IsFloating (text : String) : Prop :=
  ∃ literal : Literal.NumberLiteral, literal.WellFormed ∧ literal.text = Text.trim text.toList ∧
    ¬literal.IsInteger

theorem isFloating_iff {text : String} :
    IsFloating text ↔ ∃ literal ∈ Literal.NumberLiteral.read? (Text.trim text.toList),
      ¬literal.IsInteger := by
  constructor
  · rintro ⟨literal, hwf, htext, hnot⟩
    exact ⟨literal, Literal.NumberLiteral.read?_eq_some_iff.2 ⟨hwf, htext⟩, hnot⟩
  · rintro ⟨literal, hread, hnot⟩
    obtain ⟨hwf, htext⟩ := Literal.NumberLiteral.read?_eq_some_iff.1 hread
    exact ⟨literal, hwf, htext, hnot⟩

instance : DecidablePred IsFloating := fun _ => decidable_of_iff _ isFloating_iff.symm

theorem ofLiteral_eq_integer_iff {literal : Literal.NumberLiteral} {n : Int} :
    ofLiteral literal = .ok (.integer n) ↔
    literal.IsInteger ∧ literal.Short ∧ literal.integer = n := by
  unfold ofLiteral
  by_cases hinteger : literal.IsInteger
  · obtain ⟨hfraction, hsuffix⟩ := hinteger
    have hshort : literal.Short ↔ (plainDigits literal.whole).length ≤ Text.maxIntegerDigits :=
      ⟨fun h => h hfraction hsuffix, fun h _ _ => h⟩
    rw [and_iff_right ⟨hfraction, hsuffix⟩, hshort, Literal.NumberLiteral.integer_eq,
      ← readInteger_eq_ok_iff]
    simp only [hfraction, hsuffix, List.isEmpty_nil, Bool.not_true, Bool.or_false,
      Bool.false_eq_true, if_false, map_eq_ok_iff, integer.injEq, exists_eq_right]
  · have hfloating : (!literal.fraction.isEmpty ||
        literal.suffix.any Literal.floatingSuffixes.contains) = true := by
      by_contra hnot
      rw [Bool.not_eq_true, Bool.or_eq_false_iff] at hnot
      exact hinteger ⟨by simpa using hnot.1, hnot.2⟩
    simp [hfloating, hinteger]

/-- An integer literal is read as a number with the same digits. -/
theorem ofLiteral_toNumber {literal : Literal.IntegerLiteral} (h : literal.WellFormed)
    {suffix : Option Char}
    (hsuffix : ∀ c ∈ suffix, c = 'L') :
      ofLiteral (literal.toNumber suffix) = literal.value.map .integer := by
  simp only [ofLiteral, Literal.IntegerLiteral.toNumber, plainDigits_eq_self h.decimal,
    any_floatingSuffixes_eq_false hsuffix, List.isEmpty_nil, Bool.not_true, Bool.or_false,
    Bool.false_eq_true, if_false]
  rfl

/-- The decimal text of an integer denotes it, with or without the suffix of a long one. -/
theorem denotes_intText (n : Int) (suffix : Option Char) (h : ∀ c ∈ suffix, c = 'L') :
    Denotes (intText n ++ String.ofList suffix.toList) n := by
  refine ⟨integerLiteral n suffix, integerLiteral_wellFormed h, text_eq_trim_intText h,
    ⟨rfl, any_floatingSuffixes_eq_false h⟩, ?_⟩
  show signedValue (n < 0) (plainDigits (Nat.toDigits 10 n.natAbs)) = n
  rw [plainDigits_toDigits, signedValue, Text.digitsValue_toDigits]
  split_ifs with hneg
  · rw [decide_eq_true_iff] at hneg
    omega
  · rw [decide_eq_true_iff] at hneg
    omega

theorem denotes_plain (n : Int) : Denotes (intText n) n := by
  simpa using denotes_intText n none (by simp)

/-- An integer literal is not read as a floating number. -/
theorem exists_integer_of_ofLiteral {literal : Literal.NumberLiteral} {number : Number}
    (hinteger : literal.IsInteger) (h : ofLiteral literal = .ok number) :
    literal.Short ∧ number = .integer literal.integer := by
  have hshort : literal.Short := by
    intro hfraction hsuffix
    simp only [ofLiteral, hfraction, hsuffix, List.isEmpty_nil, Bool.not_true, Bool.or_false,
      Bool.false_eq_true, if_false] at h
    obtain ⟨n, hn, -⟩ := map_eq_ok_iff.1 h
    exact (readInteger_eq_ok_iff.1 hn).1
  have hread : ofLiteral literal = .ok (.integer literal.integer) :=
    ofLiteral_eq_integer_iff.2 ⟨hinteger, hshort, rfl⟩
  rw [h] at hread
  exact ⟨hshort, Except.ok.inj hread⟩

/-- A text is read as a number if it is a literal that has this number. -/
theorem parse_eq_some_iff {text : String} {number : Number} :
    parse text = .ok (some number) ↔
      ∃ literal : Literal.NumberLiteral, literal.WellFormed ∧ literal.text = Text.trim text.toList ∧
        ofLiteral literal = .ok number := by
  constructor
  · intro h
    unfold parse at h
    split at h
    · rename_i literal hread
      obtain ⟨hwf, htext⟩ := Literal.NumberLiteral.read?_eq_some_iff.1 hread
      obtain ⟨found, hfound, hsome⟩ := map_eq_ok_iff.1 h
      obtain rfl := Option.some.inj hsome
      exact ⟨literal, hwf, htext, hfound⟩
    · cases h
  · rintro ⟨literal, hwf, htext, hnumber⟩
    rw [parse_of_literal hwf htext, hnumber]
    rfl

/-- What a text is read as tells which integer it is a literal of. -/
theorem denotes_iff_of_parse {text : String} {found : Option Number} (h : parse text = .ok found)
    (n : Int) :
    Denotes text n ↔ found = some (.integer n) := by
  constructor
  · rintro ⟨literal, hwf, htext, hinteger, rfl⟩
    rw [parse_of_literal hwf htext] at h
    obtain ⟨number, hnumber, rfl⟩ := map_eq_ok_iff.1 h
    rw [(exists_integer_of_ofLiteral hinteger hnumber).2]
  · rintro rfl
    obtain ⟨literal, hwf, htext, hnumber⟩ := parse_eq_some_iff.1 h
    obtain ⟨hinteger, -, hvalue⟩ := ofLiteral_eq_integer_iff.1 hnumber
    exact ⟨literal, hwf, htext, hinteger, hvalue⟩

/-- A text that is no floating literal is not read as a floating number. -/
theorem exists_integer_of_parse {text : String} {number : Number} (hfloating : ¬IsFloating text)
    (h : parse text = .ok (some number)) : ∃ n, number = .integer n := by
  obtain ⟨literal, hwf, htext, hnumber⟩ := parse_eq_some_iff.1 h
  have hinteger : literal.IsInteger := by
    by_contra hnot
    exact hfloating ⟨literal, hwf, htext, hnot⟩
  exact ⟨_, (exists_integer_of_ofLiteral hinteger hnumber).2⟩

end Number

end BranchCover
