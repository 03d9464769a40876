import BranchCover.Plan.WhenEntry
import BranchCover.Proofs.ArgumentList
import BranchCover.Proofs.Number.Integer
import BranchCover.Proofs.Text.Scan

/-!
# Numbers in cases

The cases of a `when` are read by a rule of their own, which strips the suffix and the underscores
from the text of a literal. It gives every text the same value as the reading of its parts, so a
case cannot be read exactly when it is an integer literal, or a range with an end, of too many
digits.

* `caseNumber_eq_parse`: the two readings agree.
* `returns_numericCase_iff`: the cases that can be read.
-/

namespace BranchCover

namespace Literal

/-- The part of a number literal before its suffix. -/
def NumberLiteral.stem (literal : NumberLiteral) : List Char :=
  (if literal.negative then ['-'] else []) ++ literal.whole
    ++ (if literal.fraction = [] then [] else '.' :: literal.fraction)

theorem NumberLiteral.text_eq_stem (literal : NumberLiteral) :
    literal.text = literal.stem ++ literal.suffix.toList := rfl

variable {literal : NumberLiteral}

/-- The stem ends in a digit or an underscore. -/
theorem NumberLiteral.WellFormed.getLast?_stem (h : literal.WellFormed) {c : Char}
    (hc : literal.stem.getLast? = some c) : isWholeDigit c = true := by
  obtain ⟨first, rest, hwhole, -⟩ := h.first
  unfold NumberLiteral.stem at hc
  by_cases hfraction : literal.fraction = []
  · rw [if_pos hfraction, List.append_nil,
      List.getLast?_append_of_ne_nil _ (by simp [hwhole])] at hc
    exact h.whole c (List.mem_of_getLast? hc)
  · rw [if_neg hfraction, List.getLast?_append_of_ne_nil _ (by simp),
      List.getLast?_cons_of_ne_nil hfraction] at hc
    simp [isWholeDigit, h.fraction c (List.mem_of_getLast? hc)]

theorem not_mem_numberSuffixes_of_isWholeDigit {c : Char} (h : isWholeDigit c = true) :
    numberSuffixes.contains c = false := by
  refine Bool.eq_false_iff.2 fun hmem => ?_
  rw [(not_isWholeDigit_of_mem_numberSuffixes (by simpa using hmem)).1] at h
  cases h

/-- Taking the suffix letters from the end leaves the stem. -/
theorem NumberLiteral.WellFormed.dropEndWhile_text (h : literal.WellFormed) :
    Text.dropEndWhile numberSuffixes.contains literal.text = literal.stem := by
  rw [NumberLiteral.text_eq_stem]
  refine Text.dropEndWhile_append_eq (fun c hc => ?_) fun c hc => ?_
  · simpa using h.suffix c (Option.mem_toList.1 hc)
  · exact not_mem_numberSuffixes_of_isWholeDigit (h.getLast?_stem hc)

/-- The last letter of a literal is a floating suffix exactly if its suffix is. -/
theorem NumberLiteral.WellFormed.getLast?_text (h : literal.WellFormed) :
    literal.text.getLast?.any floatingSuffixes.contains =
      literal.suffix.any floatingSuffixes.contains := by
  rw [NumberLiteral.text_eq_stem]
  cases hsuffix : literal.suffix with
  | some c => simp
  | none =>
    rw [Option.toList_none, List.append_nil]
    cases hlast : literal.stem.getLast? with
    | none => rfl
    | some c =>
      have hnot := not_mem_numberSuffixes_of_isWholeDigit (h.getLast?_stem hlast)
      rw [Option.any_some, Option.any_none]
      refine Bool.eq_false_iff.2 fun hmem => ?_
      have hsub : ∀ d ∈ floatingSuffixes, numberSuffixes.contains d = true := by
        simp [floatingSuffixes, numberSuffixes]
      rw [hsub c (by simpa using hmem)] at hnot
      cases hnot

end Literal

namespace WhenPlan

open Literal

theorem plainDigits_append (a b : List Char) :
    Number.plainDigits (a ++ b) = Number.plainDigits a ++ Number.plainDigits b :=
  List.filter_append ..

theorem plainDigits_stem {literal : NumberLiteral} (h : literal.WellFormed) :
    Number.plainDigits literal.stem = (if literal.negative then ['-'] else []) ++
      (Number.plainDigits literal.whole
        ++ (if literal.fraction = [] then [] else '.' :: literal.fraction)) := by
  have hsign : Number.plainDigits (if literal.negative then ['-'] else []) =
      (if literal.negative then ['-'] else []) := by
    cases literal.negative <;> decide
  have hpoint : Number.plainDigits (if literal.fraction = [] then [] else '.' :: literal.fraction) =
      (if literal.fraction = [] then [] else '.' :: literal.fraction) := by
    split_ifs
    · rfl
    · have hfraction := Number.plainDigits_eq_self h.fraction
      unfold Number.plainDigits at hfraction ⊢
      rw [List.filter_cons, if_pos (by decide), hfraction]
  rw [NumberLiteral.stem, plainDigits_append, plainDigits_append, hsign, hpoint, List.append_assoc]

/-- The whole part keeps its first digit, which is no sign. -/
theorem plainDigits_whole {literal : NumberLiteral} (h : literal.WellFormed) :
    ∃ first rest, Number.plainDigits literal.whole = first :: rest ∧ first ≠ '-' := by
  obtain ⟨first, rest, hwhole, hfirst⟩ := h.first
  have hne : first ≠ '_' ∧ first ≠ '-' := by
    constructor <;> rintro rfl <;> exact absurd hfirst (by decide)
  refine ⟨first, Number.plainDigits rest, ?_, hne.2⟩
  rw [hwhole, Number.plainDigits, List.filter_cons, if_pos (by simpa using hne.1)]
  rfl

/-- The value of a number with a sign and digits, which is floating if it has a point or is marked
so. -/
def signedNumber (negative : Bool) (digits : List Char) (floating : Bool) :
    Except Number.Error (Option Number) :=
  match Text.splitFirst? '.' digits with
  | some (whole, fraction) => .ok (some (.floating (Number.readFloating negative whole fraction)))
  | none =>
    if floating then .ok (some (.floating (Number.readFloating negative digits [])))
    else (Number.readInteger negative digits).map fun n => some (.integer n)

/-- The value of a text whose sign, digits and suffix are known. -/
theorem caseNumber_of_literal {text : List Char} {literal : NumberLiteral}
    (hwf : literal.WellFormed)
    (htext : literal.text = Text.trim text) :
    caseNumber text = signedNumber literal.negative
      (Number.plainDigits literal.whole
        ++ (if literal.fraction = [] then [] else '.' :: literal.fraction))
      (literal.suffix.any floatingSuffixes.contains) := by
  have hnumber : isNumber literal.text = true := by
    rw [isNumber, NumberLiteral.read?_eq_some_iff.2 ⟨hwf, rfl⟩]
    rfl
  obtain ⟨first, rest, hfirst, hsign⟩ := plainDigits_whole hwf
  unfold caseNumber
  simp only [← htext, hnumber, if_true, hwf.dropEndWhile_text, hwf.getLast?_text,
    plainDigits_stem hwf]
  cases literal.negative with
  | true => rfl
  | false =>
    -- the first digit is no sign, so all digits are read
    simp only [Bool.false_eq_true, if_false, List.nil_append, hfirst, List.cons_append,
      List.cons.injEq, hsign, false_and, imp_self, implies_true]
    rfl

/-- **The two readings of a number literal agree.** -/
theorem caseNumber_eq_parse (text : String) : caseNumber text.toList = Number.parse text := by
  cases hread : NumberLiteral.read? (Text.trim text.toList) with
  | none =>
    unfold caseNumber Number.parse isNumber
    simp [hread]
  | some literal =>
    obtain ⟨hwf, htext⟩ := NumberLiteral.read?_eq_some_iff.1 hread
    have hpoint : '.' ∉ Number.plainDigits literal.whole := fun hmem =>
      absurd (hwf.whole '.' (List.mem_of_mem_filter hmem)) (by decide)
    rw [caseNumber_of_literal hwf htext, Number.parse_of_literal hwf htext, Number.ofLiteral,
      signedNumber]
    by_cases hfraction : literal.fraction = []
    · rw [if_pos hfraction, List.append_nil, Text.splitFirst?_of_not_mem hpoint, hfraction]
      cases literal.suffix.any floatingSuffixes.contains with
      | true => rfl
      | false =>
        cases Number.readInteger literal.negative (Number.plainDigits literal.whole) <;> rfl
    · have hnotEmpty : literal.fraction.isEmpty = false := by simpa using hfraction
      rw [if_neg hfraction, Text.splitFirst?_append hpoint, hnotEmpty]
      rfl

theorem parse_trim_case (case : String) :
    caseNumber (Text.trim case.toList) = Number.parse case := by
  rw [← toList_trimmed, caseNumber_eq_parse, Number.parse_trimmed]

/-- A case can be read: the ends of a range, or the integer literal that it is, have no more digits
than are read. -/
def CaseReadable (case : String) : Prop :=
  match rangeCase? (Text.trim case.toList) with
  | some range => range.low.Short ∧ range.high.Short
  | none => ∀ literal ∈ NumberLiteral.read? (Text.trim case.toList), literal.Short

theorem returns_numericCase_iff {case : String} :
    Returns (numericCase case) ↔ CaseReadable case := by
  unfold numericCase CaseReadable
  cases hrange : rangeCase? (Text.trim case.toList) with
  | some range =>
    simp only [hrange]
    rw [← IntegerLiteral.returns_value_iff, ← IntegerLiteral.returns_value_iff]
    exact returns_bind_bind_iff fun _ _ => returns_ok _
  | none =>
    simp only [hrange]
    rw [returns_map_iff, parse_trim_case, Number.returns_parse_iff]

/-! ### A row of ones as a case -/

theorem ones_ne_else (n : ℕ) : String.ofList (List.replicate (n + 1) '1') ≠ "else" := by
  intro h
  have hhead := congrArg (fun s : String => s.toList.head?) h
  rw [String.toList_ofList, List.replicate_succ, List.head?_cons] at hhead
  exact absurd hhead (by decide)

theorem casesOf_ones {entry : Branch} {n : ℕ}
    (h : entry.condition = some (String.ofList (List.replicate (n + 1) '1'))) :
    casesOf entry = [String.ofList (List.replicate (n + 1) '1')] := by
  have hcomma : ',' ∉ (String.ofList (List.replicate (n + 1) '1')).toList := by simp
  have htrimmed : trimmed (String.ofList (List.replicate (n + 1) '1')) =
      String.ofList (List.replicate (n + 1) '1') := by
    rw [trimmed, String.toList_ofList, trim_ones]
  rw [casesOf, h, Option.getD_some]
  exact ArgumentList.split_of_meetsEnd_eq_false htrimmed (by simp)
    (ArgumentList.Point.meetsEnd_of_notMem hcomma)

theorem caseReadable_ones_iff (n : ℕ) :
    CaseReadable (String.ofList (List.replicate (n + 1) '1')) ↔ n + 1 ≤ Text.maxIntegerDigits := by
  have hrange : rangeCase? (List.replicate (n + 1) '1') = none := by
    have hin : withoutIn (List.replicate (n + 1) '1') = List.replicate (n + 1) '1' := rfl
    rw [rangeCase?, hin, IntegerLiteral.split?_ones]
    rfl
  have hplain : Number.plainDigits (List.replicate (n + 1) '1') = List.replicate (n + 1) '1' :=
    Number.plainDigits_eq_self (IntegerLiteral.wellFormed_ones n).decimal
  rw [CaseReadable, String.toList_ofList, trim_ones, hrange, NumberLiteral.read?_ones]
  simp [NumberLiteral.Short, hplain]

end WhenPlan

end BranchCover
