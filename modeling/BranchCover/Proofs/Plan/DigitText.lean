import BranchCover.Proofs.Plan.Cases

/-!
# The digits that a number is read from

Two readers give a number literal its value: one takes its parts, the other strips the whole text.
What both read in the end is the same: digits with a sign and a point but without underscores and
suffix, and whether they are a floating number. An integer is read and written only up to a number
of digits, and up to there what is written is read as the same integer.

* `DigitText`: what is read of a literal, and the number that it is.
* `caseDigitText?_eq`: both readers read the same digits.
* `parse_eq_number`, `caseNumber_eq_number`: the value of a literal is that of its digits.
* `format_integer`, `parse_format_integer`: the integers that can be written, and that are read
  again.
* `parse_caseNumber_format`: all of this together.
-/

namespace BranchCover

namespace Number

open Literal (NumberLiteral isNumber numberSuffixes floatingSuffixes)

/-! ### Digits and their value -/

/-- What is read of a number literal. -/
structure DigitText where
  /-- Whether it is read as a floating number. -/
  floating : Bool
  /-- The digits with the sign in front and the point between them. -/
  digits : List Char
  deriving DecidableEq, Repr

/-- Whether a minus sign stands in front of a text, and what is behind it. -/
def splitSign : List Char → Bool × List Char
  | '-' :: rest => (true, rest)
  | text => (false, text)

/-- The floating number of digits. -/
def floatingOf (digits : List Char) : Binary64 :=
  match Text.splitFirst? '.' (splitSign digits).2 with
  | some (whole, fraction) => readFloating (splitSign digits).1 whole fraction
  | none => readFloating (splitSign digits).1 (splitSign digits).2 []

/-- The integer of digits. -/
def integerOf (digits : List Char) : Except Error Int :=
  readInteger (splitSign digits).1 (splitSign digits).2

/-- The number that is read. -/
def DigitText.number (read : DigitText) : Except Error Number :=
  if read.floating then .ok (.floating (floatingOf read.digits))
    else (integerOf read.digits).map .integer

theorem DigitText.number_floating (digits : List Char) :
    DigitText.number { floating := true, digits } = .ok (.floating (floatingOf digits)) := rfl

theorem DigitText.number_integer (digits : List Char) :
    DigitText.number { floating := false, digits } = (integerOf digits).map .integer := rfl

/-- The number of a text of which something may be read. -/
def readNumber (read : Option DigitText) : Except Error (Option Number) :=
  read.elim (.ok none) fun read => read.number.map some

/-- What is read of an integer has no more digits than are read. -/
def DigitText.Short (read : DigitText) : Prop :=
  read.floating = false → (splitSign read.digits).2.length ≤ Text.maxIntegerDigits

theorem DigitText.returns_number_iff {read : DigitText} : Returns read.number ↔ read.Short := by
  unfold DigitText.number DigitText.Short
  cases read.floating with
  | true => simp
  | false => simp [integerOf, returns_readInteger_iff]

theorem returns_readNumber_iff {read : Option DigitText} : Returns (readNumber read) ↔
    ∀ found ∈ read, found.Short := by
  cases read with
  | none => simp [readNumber]
  | some found => simp [readNumber, DigitText.returns_number_iff]

/-! ### What the readers read -/

/-- What is read of the parts of a literal. -/
def ofParts (literal : NumberLiteral) : DigitText where
  floating := !literal.fraction.isEmpty || literal.suffix.any floatingSuffixes.contains
  digits := (if literal.negative then ['-'] else []) ++
    (plainDigits literal.whole ++ (if literal.fraction = [] then [] else '.' :: literal.fraction))

/-- What is read of a text by its parts. -/
def digitText? (text : String) : Option DigitText :=
  (NumberLiteral.read? (Text.trim text.toList)).map ofParts

end Number

namespace WhenPlan

open Literal Number

/-- What is read of a case: its text without the suffix letters at its end and without
underscores. -/
def caseDigitText? (text : List Char) : Option DigitText :=
  if isNumber (Text.trim text) then
    let digits := plainDigits (Text.dropEndWhile numberSuffixes.contains (Text.trim text))
    some
      { floating := digits.contains '.' || (Text.trim text).getLast?.any floatingSuffixes.contains,
        digits }
  else none

/-- **Both readers read the same digits as the same kind of number.** -/
theorem caseDigitText?_eq (text : String) : caseDigitText? text.toList = digitText? text := by
  unfold caseDigitText? digitText? isNumber
  cases hread : NumberLiteral.read? (Text.trim text.toList) with
  | none => rfl
  | some literal =>
    obtain ⟨hwf, htext⟩ := NumberLiteral.read?_eq_some_iff.1 hread
    have hpoint : '.' ∉ plainDigits literal.whole := fun hmem =>
      absurd (hwf.whole '.' (List.mem_of_mem_filter hmem)) (by decide)
    have hfraction : (ofParts literal).digits.contains '.' = !literal.fraction.isEmpty := by
      unfold ofParts
      cases literal.negative <;> by_cases hnil : literal.fraction = [] <;> simp [hpoint, hnil]
    rw [← htext, hwf.dropEndWhile_text, hwf.getLast?_text, plainDigits_stem hwf]
    simp only [Option.isSome_some, if_true, Option.map_some, Option.some.injEq]
    exact congrArg (DigitText.mk · _) (congrArg (· || _) hfraction)

/-- Digits with a point are read as a floating number, and others as a number of the kind that the
suffix tells. -/
theorem readNumber_eq_signedNumber (digits : List Char) (suffix : Bool) :
    readNumber (some { floating := digits.contains '.' || suffix, digits }) =
      signedNumber (splitSign digits).1 (splitSign digits).2 suffix := by
  have hpoint : digits.contains '.' = (splitSign digits).2.contains '.' := by
    unfold splitSign
    split <;> simp
  rw [hpoint, signedNumber]
  by_cases hmem : '.' ∈ (splitSign digits).2
  · obtain ⟨whole, fraction, hsplit, hwhole⟩ := List.eq_append_cons_of_mem hmem
    have hparts : Text.splitFirst? '.' (splitSign digits).2 = some (whole, fraction) := by
      rw [hsplit, Text.splitFirst?_append hwhole]
    rw [List.contains_iff_mem.2 hmem, Bool.true_or, readNumber, Option.elim_some,
      DigitText.number_floating, floatingOf, hparts]
    rfl
  · have hcontains : (splitSign digits).2.contains '.' = false := by simpa using hmem
    have hparts : Text.splitFirst? '.' (splitSign digits).2 = none :=
      Text.splitFirst?_of_not_mem hmem
    rw [hcontains, Bool.false_or, readNumber, Option.elim_some, hparts]
    cases suffix with
    | true =>
      rw [DigitText.number_floating, floatingOf, hparts]
      rfl
    | false =>
      rw [DigitText.number_integer, integerOf]
      cases readInteger (splitSign digits).1 (splitSign digits).2 <;> rfl

/-- The number of a case is that of its digits. -/
theorem caseNumber_eq_number (text : List Char) :
    caseNumber text = readNumber (caseDigitText? text) := by
  unfold caseDigitText?
  split
  · rename_i hnumber
    rw [readNumber_eq_signedNumber, caseNumber, if_pos hnumber]
    rfl
  · rename_i hnumber
    rw [caseNumber, if_neg hnumber]
    rfl

/-- The value of a literal is that of its digits. -/
theorem parse_eq_number (text : String) : Number.parse text = readNumber (digitText? text) := by
  rw [← caseNumber_eq_parse, caseNumber_eq_number, caseDigitText?_eq]

end WhenPlan

namespace Number

/-! ### Integers written and read -/

variable {n : ℤ} {type : String}

theorem length_toDigits_natAbs_le_iff :
    (Nat.toDigits 10 n.natAbs).length ≤ Text.maxIntegerDigits ↔
    n.natAbs < 10 ^ Text.maxIntegerDigits :=
  Nat.length_toDigits_le_iff (by omega) (by decide)

/-- An integer is written as a literal of a type that is not floating by its digits, with the suffix
of a long one. -/
theorem format_integer (htype : TypeText.base type ∉ TypeText.floatingNames) :
    (Number.integer n).format type =
      (writeInteger n).map fun text =>
        if TypeText.base type ∈ TypeText.longNames then text ++ "L" else text := by
  simp only [format, htype, if_false]
  exact bind_ok_eq_map _ _

theorem format_integer_of_le (htype : TypeText.base type ∉ TypeText.floatingNames)
    (h : 10 ^ Text.maxIntegerDigits ≤ n.natAbs) :
      (Number.integer n).format type = .error .tooLong := by
  rw [format_integer htype, writeInteger,
    if_neg (mt length_toDigits_natAbs_le_iff.1 (Nat.not_lt.2 h))]
  rfl

/-- What is written of an integer with few enough digits is read as the same integer. -/
theorem parse_format_integer (htype : TypeText.base type ∉ TypeText.floatingNames)
    (h : n.natAbs < 10 ^ Text.maxIntegerDigits) :
    ∃ written, (Number.integer n).format type = .ok written ∧
      parse written = .ok (some (.integer n)) := by
  obtain ⟨written, hwritten⟩ : Returns ((Number.integer n).format type) := by
    rw [format_integer htype, returns_map_iff, writeInteger,
      if_pos (length_toDigits_natAbs_le_iff.2 h)]
    exact returns_ok _
  obtain ⟨m, hm, hparse⟩ := parse_format htype hwritten
  obtain rfl : n = m := Except.ok.inj hm
  exact ⟨written, hwritten, hparse⟩

/-- A row of ones that is too long is not read. -/
theorem parse_ones_of_le {k : ℕ} (h : Text.maxIntegerDigits ≤ k) :
    parse (String.ofList (List.replicate (k + 1) '1')) = .error (.tooManyDigits (k + 1)) := by
  have hplain : plainDigits (List.replicate (k + 1) '1') = List.replicate (k + 1) '1' :=
    plainDigits_eq_self (Literal.IntegerLiteral.wellFormed_ones k).decimal
  have hlong : ¬(List.replicate (k + 1) '1').length ≤ Text.maxIntegerDigits := by
    rw [List.length_replicate]
    omega
  have hinteger : ofLiteral ⟨false, List.replicate (k + 1) '1', [], none⟩ =
      (readInteger false (plainDigits (List.replicate (k + 1) '1'))).map .integer := rfl
  rw [parse, String.toList_ofList, Literal.trim_ones, Literal.NumberLiteral.read?_ones]
  dsimp only
  rw [hinteger, hplain, readInteger, if_neg hlong, List.length_replicate]
  rfl

end Number

namespace WhenPlan

open Number

/-- **The readers agree on every text, and integers that are written are read again.** Both readers
find the same digits and the same kind of number in a text, or no number, and take the value of
these digits. It has one unless it is an integer with too many digits, which neither reads. An
integer is written as a literal of a type that is not floating and is read as itself exactly if it
has no more digits than that, and any other one is not written. -/
theorem parse_caseNumber_format (text : String) (n : ℤ) (type : String) :
    (caseDigitText? text.toList = digitText? text ∧
      caseNumber text.toList = readNumber (caseDigitText? text.toList) ∧
      Number.parse text = readNumber (digitText? text) ∧
      caseNumber text.toList = Number.parse text ∧
      (Returns (Number.parse text) ↔ ∀ read ∈ digitText? text, read.Short)) ∧
    (TypeText.base type ∉ TypeText.floatingNames →
      ((∃ written, (Number.integer n).format type = .ok written ∧
        Number.parse written = .ok (some (.integer n))) ↔
        n.natAbs < 10 ^ Text.maxIntegerDigits) ∧
      (10 ^ Text.maxIntegerDigits ≤ n.natAbs →
        (Number.integer n).format type = .error .tooLong)) := by
  refine ⟨⟨caseDigitText?_eq text, caseNumber_eq_number _, parse_eq_number text,
    caseNumber_eq_parse text, ?_⟩,
    fun htype => ⟨⟨?_, parse_format_integer htype⟩, format_integer_of_le htype⟩⟩
  · rw [parse_eq_number, returns_readNumber_iff]
  · rintro ⟨written, hwritten, -⟩
    by_contra hlong
    rw [format_integer_of_le htype (Nat.not_lt.1 hlong)] at hwritten
    cases hwritten

/-- An integer as a literal of a long type, and a literal with underscores, a fraction and a
suffix. -/
theorem parse_caseNumber_format_long :
    TypeText.base "Long?" ∉ TypeText.floatingNames ∧
      (∃ written, (Number.integer (-12)).format "Long?" = .ok written ∧
        Number.parse written = .ok (some (.integer (-12)))) ∧
      caseDigitText? "-1_0_.50f".toList = some { floating := true, digits := "-10.50".toList } ∧
      digitText? "-1_0_.50f" = some { floating := true, digits := "-10.50".toList } := by
  obtain ⟨⟨hsame, -⟩, hwritten⟩ := parse_caseNumber_format "-1_0_.50f" (-12) "Long?"
  have htype : TypeText.base "Long?" ∉ TypeText.floatingNames := by decide
  have hshort : (-12 : ℤ).natAbs < 10 ^ Text.maxIntegerDigits :=
    (by decide : (-12 : ℤ).natAbs < 10 ^ 2).trans_le (Nat.pow_le_pow_right (by decide) (by decide))
  have hdigits : caseDigitText? "-1_0_.50f".toList =
    some { floating := true, digits := "-10.50".toList } := by decide
  exact ⟨htype, (hwritten htype).1.2 hshort, hdigits, hsame.symm.trans hdigits⟩

/-- A number with one digit more than are written and read. -/
theorem parse_caseNumber_format_longInteger :
    (Number.integer (10 ^ Text.maxIntegerDigits)).format "Int" = .error .tooLong ∧
      Number.parse (String.ofList (List.replicate (Text.maxIntegerDigits + 1) '1')) =
        .error (.tooManyDigits (Text.maxIntegerDigits + 1)) := by
  have hpow : ∀ k : ℕ, 10 ^ k ≤ ((10 : ℤ) ^ k).natAbs := fun k => (Int.natAbs_pow 10 k).ge
  exact ⟨format_integer_of_le (by decide) (hpow _), parse_ones_of_le le_rfl⟩

end WhenPlan

end BranchCover
