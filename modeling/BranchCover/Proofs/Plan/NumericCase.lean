import BranchCover.Proofs.Number.Integer
import BranchCover.Proofs.Plan.WhenEntry

/-!
# The integers of a case

A case of a `when` covers the integer that it is a literal of, or all integers of the range that it
is written as. Of the cases that can be read, none of them floating, the numbers that are kept cover
the same integers.

* `RangeCase.Written`: how a range is written.
* `rangeCase?_eq_some_iff`: a text is read as exactly the range that it writes.
* `Covers`: the integers of a case.
* `caseReadable_iff`: the cases that can be read.
* `holds_numericCases_iff`: the numbers that are kept of some cases.
-/

namespace BranchCover

namespace WhenPlan

open Literal

/-! ### The writing of a range -/

/-- What divides the ends of a range, with the blanks around it, and whether the upper end belongs
to the range. -/
inductive RangeMark : List Char → Bool → Prop
  /-- `..` -/
  | closed {before after : List Char} (hbefore : ∀ c ∈ before, Text.isBlank c = true)
      (hafter : ∀ c ∈ after, Text.isBlank c = true) : RangeMark (before ++ '.' :: '.' :: after) true
  /-- `..<` -/
  | halfOpen {before after : List Char} (hbefore : ∀ c ∈ before, Text.isBlank c = true)
      (hafter : ∀ c ∈ after, Text.isBlank c = true) :
        RangeMark (before ++ '.' :: '.' :: '<' :: after) false
  /-- `until`, with a blank on either side -/
  | upTo {before after : List Char}
      (hbefore : ∀ c ∈ before, Text.isBlank c = true) (hbefore_ne : before ≠ [])
      (hafter : ∀ c ∈ after, Text.isBlank c = true) (hafter_ne : after ≠ []) :
      RangeMark (before ++ ("until".toList ++ after)) false

/-- What a case may start with: nothing, or `in` and at least one blank. -/
inductive CaseOpening : List Char → Prop
  | bare : CaseOpening []
  | within {gap : List Char} (hgap : ∀ c ∈ gap, Text.isBlank c = true) (hgap_ne : gap ≠ []) :
      CaseOpening ('i' :: 'n' :: gap)

/-- A text writes a range: its ends are plain integers. -/
structure RangeCase.Written (range : RangeCase) (text : List Char) : Prop where
  low : range.low.WellFormed
  high : range.high.WellFormed
  layout : ∃ opening mark, CaseOpening opening ∧ RangeMark mark range.inclusive ∧
    text = opening ++ (range.low.text ++ (mark ++ range.high.text))

/-- A literal starts with no blank, and with no character that a mark or an opening has. -/
theorem head_literal {literal : IntegerLiteral} (h : literal.WellFormed) {c : Char}
    {rest : List Char}
    (htext : literal.text = c :: rest) : Text.isBlank c = false ∧ c ≠ '<' ∧ c ≠ 'i' := by
  obtain ⟨d, rest', htext', hd⟩ := h.head?
  obtain ⟨rfl, -⟩ := List.cons.inj (htext.symm.trans htext')
  rcases hd with rfl | hd
  · decide
  · refine ⟨Text.isBlank_of_isDecimal hd, ?_, ?_⟩ <;> rintro rfl <;> exact absurd hd (by decide)

theorem exists_mark_of_rangeMark? {text upper : List Char} {inclusive : Bool}
    (h : rangeMark? text = some (inclusive, upper)) :
      ∃ mark, RangeMark mark inclusive ∧ text = mark ++ upper := by
  have hbefore : ∀ c ∈ text.takeWhile Text.isBlank, Text.isBlank c = true :=
    fun c => List.mem_takeWhile_imp
  have htext := Text.append_trimStart text
  have hafter : ∀ rest : List Char, ∀ c ∈ rest.takeWhile Text.isBlank, Text.isBlank c = true :=
    fun rest c => List.mem_takeWhile_imp
  unfold rangeMark? at h
  split at h
  · rename_i rest hrest
    obtain ⟨rfl, rfl⟩ := Prod.mk.inj (Option.some.inj h)
    refine ⟨_, .halfOpen hbefore (hafter rest), ?_⟩
    rw [List.append_assoc, List.cons_append, List.cons_append, List.cons_append,
      Text.append_trimStart, ← hrest, htext]
  · rename_i rest _ hrest
    obtain ⟨rfl, rfl⟩ := Prod.mk.inj (Option.some.inj h)
    refine ⟨_, .closed hbefore (hafter rest), ?_⟩
    rw [List.append_assoc, List.cons_append, List.cons_append, Text.append_trimStart,
      ← hrest, htext]
  · rename_i c rest hrest
    split_ifs at h with hblank
    obtain ⟨rfl, rfl⟩ := Prod.mk.inj (Option.some.inj h)
    obtain ⟨hfirst, hc⟩ := Bool.and_eq_true_iff.1 hblank
    have hbefore_ne : text.takeWhile Text.isBlank ≠ [] := by
      cases text with
      | nil => simp at hfirst
      | cons d text =>
        have hd : Text.isBlank d = true := by simpa using hfirst
        simp [hd]
    have hblanks : ∀ d ∈ c :: rest.takeWhile Text.isBlank, Text.isBlank d = true :=
      List.forall_mem_cons.2 ⟨hc, hafter rest⟩
    refine ⟨_, .upTo hbefore hbefore_ne hblanks (List.cons_ne_nil _ _), ?_⟩
    rw [List.append_assoc, List.append_assoc, List.cons_append, Text.append_trimStart]
    conv_lhs => rw [← htext, hrest]
    rfl
  · cases h

/-- A mark before an upper end is read. -/
theorem rangeMark?_append {mark : List Char} {inclusive : Bool} (h : RangeMark mark inclusive)
    {literal : IntegerLiteral} (hwf : literal.WellFormed) :
    rangeMark? (mark ++ literal.text) = some (inclusive, literal.text) := by
  obtain ⟨c, rest, htext, -⟩ := hwf.head?
  obtain ⟨hblank, hless, -⟩ := head_literal hwf htext
  have hupper : ∀ {after : List Char}, (∀ d ∈ after, Text.isBlank d = true) →
      Text.trimStart (after ++ literal.text) = literal.text := by
    intro after hafter
    rw [htext]
    exact Text.trimStart_append_cons hafter hblank
  cases h with
  | @closed before after hbefore hafter =>
    have hstart : Text.trimStart (before ++ '.' :: '.' :: after ++ literal.text) =
        '.' :: '.' :: (after ++ literal.text) := by
      rw [List.append_assoc]
      exact Text.trimStart_append_cons hbefore (by decide)
    -- behind the two points stands a blank or the upper end, so no `<`
    have hnot : ∀ tail, after ++ literal.text ≠ '<' :: tail := by
      intro tail heq
      cases after with
      | nil => exact hless (by rw [List.nil_append, htext] at heq; exact (List.cons.inj heq).1)
      | cons d after =>
        obtain ⟨rfl, -⟩ := List.cons.inj heq
        exact absurd (hafter '<' List.mem_cons_self) (by decide)
    unfold rangeMark?
    rw [hstart]
    split
    · rename_i tail heq
      exact absurd (List.cons.inj (List.cons.inj heq).2).2 (hnot tail)
    · rename_i tail _ heq
      obtain rfl := (List.cons.inj (List.cons.inj heq).2).2
      rw [hupper hafter]
    · rename_i heq
      exact absurd (List.cons.inj heq).1 (by decide)
    · rename_i hno _
      exact absurd rfl (hno (after ++ literal.text))
  | @halfOpen before after hbefore hafter =>
    have hstart : Text.trimStart (before ++ '.' :: '.' :: '<' :: after ++ literal.text) =
        '.' :: '.' :: '<' :: (after ++ literal.text) := by
      rw [List.append_assoc]
      exact Text.trimStart_append_cons hbefore (by decide)
    unfold rangeMark?
    rw [hstart]
    exact congrArg (fun upper => some (false, upper)) (hupper hafter)
  | @upTo before after hbefore hbefore_ne hafter hafter_ne =>
    obtain ⟨d, gap, rfl⟩ := List.exists_cons_of_ne_nil hafter_ne
    obtain ⟨first, before, rfl⟩ := List.exists_cons_of_ne_nil hbefore_ne
    obtain ⟨hd, hgap⟩ := List.forall_mem_cons.1 hafter
    have hfirst : Text.isBlank first = true := hbefore first List.mem_cons_self
    have hstart : Text.trimStart (first :: before ++ ("until".toList ++ d :: gap) ++ literal.text) =
        'u' :: 'n' :: 't' :: 'i' :: 'l' :: d :: (gap ++ literal.text) := by
      rw [List.append_assoc]
      exact Text.trimStart_append_cons hbefore (by decide)
    unfold rangeMark?
    rw [hstart]
    simp only [List.cons_append, List.head?_cons, Option.any_some, hfirst, hd, Bool.and_self,
      if_true, hupper hgap]

theorem exists_opening (text : List Char) :
    ∃ opening, CaseOpening opening ∧ text = opening ++ withoutIn text := by
  unfold withoutIn
  split
  · rename_i c rest
    by_cases hc : Text.isBlank c = true
    · rw [if_pos hc]
      have hblanks : ∀ d ∈ c :: rest.takeWhile Text.isBlank, Text.isBlank d = true :=
        List.forall_mem_cons.2 ⟨hc, fun d => List.mem_takeWhile_imp⟩
      refine ⟨_, .within hblanks (List.cons_ne_nil _ _), ?_⟩
      rw [List.cons_append, List.cons_append, List.cons_append, Text.append_trimStart]
    · rw [if_neg hc]
      exact ⟨[], .bare, rfl⟩
  · exact ⟨[], .bare, rfl⟩

/-- An opening before a lower end is taken away. -/
theorem withoutIn_append {opening rest : List Char} (h : CaseOpening opening) {c : Char}
    (hblank : Text.isBlank c = false) (hin : c ≠ 'i') :
      withoutIn (opening ++ c :: rest) = c :: rest := by
  cases h with
  | bare =>
    rw [List.nil_append, withoutIn]
    intro _ _ heq
    exact absurd (List.cons.inj heq).1 hin
  | within hgap hgap_ne =>
    obtain ⟨d, gap, rfl⟩ := List.exists_cons_of_ne_nil hgap_ne
    obtain ⟨hd, hgap⟩ := List.forall_mem_cons.1 hgap
    rw [List.cons_append, List.cons_append, List.cons_append, withoutIn, if_pos hd]
    exact Text.trimStart_append_cons hgap hblank

/-- A mark starts with no digit. -/
theorem RangeMark.head? {mark : List Char} {inclusive : Bool} (h : RangeMark mark inclusive)
    {rest : List Char}
    {c : Char} (hc : (mark ++ rest).head? = some c) : Text.isDecimal c = false := by
  have hblank : ∀ {before : List Char} {d : Char} {tail : List Char},
    (∀ e ∈ before, Text.isBlank e = true) →
      Text.isDecimal d = false → (before ++ d :: tail).head? = some c →
      Text.isDecimal c = false := by
    intro before d tail hbefore hd hhead
    cases before with
    | nil =>
      obtain rfl := Option.some.inj hhead
      exact hd
    | cons e before =>
      obtain rfl := Option.some.inj hhead
      refine Bool.eq_false_iff.2 fun hdecimal => ?_
      have := hbefore e List.mem_cons_self
      rw [Text.isBlank_of_isDecimal hdecimal] at this
      cases this
  cases h with
  | closed hbefore _ =>
    rw [List.append_assoc] at hc
    exact hblank hbefore (by decide) hc
  | halfOpen hbefore _ =>
    rw [List.append_assoc] at hc
    exact hblank hbefore (by decide) hc
  | upTo hbefore _ _ _ =>
    rw [List.append_assoc] at hc
    exact hblank hbefore (by decide) hc

/-- **A text is read as exactly the range that it writes.** -/
theorem rangeCase?_eq_some_iff {text : List Char} {range : RangeCase} :
    rangeCase? text = some range ↔ range.Written text := by
  constructor
  · intro h
    obtain ⟨opening, hopening, htext⟩ := exists_opening text
    unfold rangeCase? at h
    split at h
    · cases h
    · rename_i low rest hlow
      split at h
      · cases h
      · rename_i inclusive upper hmark
        split at h
        · rename_i high hhigh
          obtain rfl := Option.some.inj h
          obtain ⟨hlowWf, hlowText, -⟩ := IntegerLiteral.split?_eq_some_iff.1 hlow
          obtain ⟨hhighWf, hhighText, -⟩ := IntegerLiteral.split?_eq_some_iff.1 hhigh
          obtain ⟨mark, hwritten, rfl⟩ := exists_mark_of_rangeMark? hmark
          rw [List.append_nil] at hhighText
          exact ⟨hlowWf, hhighWf, opening, mark, hopening, hwritten,
            by rw [hhighText, hlowText, ← htext]⟩
        · cases h
  · rintro ⟨hlow, hhigh, opening, mark, hopening, hmark, rfl⟩
    obtain ⟨c, rest, hc, -⟩ := hlow.head?
    obtain ⟨hblank, -, hin⟩ := head_literal hlow hc
    have hwithout : withoutIn (opening ++ (range.low.text ++ (mark ++ range.high.text))) =
        range.low.text ++ (mark ++ range.high.text) := by
      rw [hc]
      exact withoutIn_append hopening hblank hin
    have hsplit : IntegerLiteral.split? (range.low.text ++ (mark ++ range.high.text)) =
        some (range.low, mark ++ range.high.text) :=
      IntegerLiteral.split?_eq_some_iff.2 ⟨hlow, rfl, fun d hd => hmark.head? hd⟩
    simp only [rangeCase?, hwithout, hsplit, rangeMark?_append hmark hhigh, hhigh.split?_text]

/-! ### What a case covers -/

/-- An integer lies in a range. -/
def RangeCase.Contains (range : RangeCase) (n : Int) : Prop :=
  range.low.integer ≤ n ∧ (n < range.high.integer ∨ range.inclusive = true ∧ n = range.high.integer)

/-- A case covers an integer: it is an integer literal of it, or a range that it lies in. -/
inductive Covers (case : String) (n : Int) : Prop
  | literal (h : Number.Denotes case n)
  | range {range : RangeCase} (h : range.Written (Text.trim case.toList)) (hn : range.Contains n)

/-- The integers that a case is written with have no more digits than are read. -/
structure Legible (case : String) : Prop where
  literal : ∀ literal : NumberLiteral, literal.WellFormed → literal.text = Text.trim case.toList →
      literal.Short
  range : ∀ range : RangeCase, range.Written (Text.trim case.toList) → range.low.Short ∧
      range.high.Short

theorem RangeMark.mem {mark : List Char} {inclusive : Bool} (h : RangeMark mark inclusive) :
    '.' ∈ mark ∨ 'u' ∈ mark := by
  cases h <;> simp

/-- A range has a point or the letters of `until` in it. -/
theorem RangeCase.Written.mem {range : RangeCase} {text : List Char} (h : range.Written text) :
    '.' ∈ text ∨ 'u' ∈ text := by
  obtain ⟨opening, mark, -, hmark, rfl⟩ := h.layout
  have hmem := hmark.mem
  simp only [List.mem_append]
  tauto

/-- An integer literal is no range. -/
theorem rangeCase?_of_isInteger {literal : NumberLiteral} (hwf : literal.WellFormed)
    (hinteger : literal.IsInteger) :
    rangeCase? literal.text = none := by
  refine Option.eq_none_iff_forall_ne_some.2 fun range hrange => ?_
  have hnot : ∀ c, isWholeDigit c = false → c ≠ '-' → c ∉ numberSuffixes → c ∉ literal.text := by
    intro c hdigit hminus hsuffix hc
    simp only [NumberLiteral.text, hinteger.1, if_true, List.append_nil, List.mem_append] at hc
    rcases hc with (hc | hc) | hc
    · obtain ⟨-, rfl⟩ : literal.negative = true ∧ c = '-' := by simpa using hc
      exact hminus rfl
    · rw [hwf.whole c hc] at hdigit
      cases hdigit
    · exact hsuffix (hwf.suffix c (Option.mem_toList.1 hc))
  rcases (rangeCase?_eq_some_iff.1 hrange).mem with hc | hc
  · exact hnot '.' (by decide) (by decide) (by decide) hc
  · exact hnot 'u' (by decide) (by decide) (by decide) hc

/-- A case that is no floating literal can be read exactly if it is legible. -/
theorem caseReadable_iff {case : String} (hfloating : ¬Number.IsFloating case) : CaseReadable case ↔
    Legible case := by
  unfold CaseReadable
  cases hrange : rangeCase? (Text.trim case.toList) with
  | some range =>
    have hwritten := rangeCase?_eq_some_iff.1 hrange
    constructor
    · intro hshort
      refine ⟨fun literal hwf htext => ?_, fun other hother => ?_⟩
      · -- a range is no literal
        have hinteger : literal.IsInteger := by
          by_contra hnot
          exact hfloating ⟨literal, hwf, htext, hnot⟩
        rw [← htext, rangeCase?_of_isInteger hwf hinteger] at hrange
        cases hrange
      · rw [rangeCase?_eq_some_iff.2 hother] at hrange
        obtain rfl := Option.some.inj hrange
        exact hshort
    · exact fun h => h.range range hwritten
  | none =>
    constructor
    · intro hshort
      refine ⟨fun literal hwf htext => ?_, fun range hwritten => ?_⟩
      · exact hshort literal (NumberLiteral.read?_eq_some_iff.2 ⟨hwf, htext⟩)
      · rw [rangeCase?_eq_some_iff.2 hwritten] at hrange
        cases hrange
    · intro h literal hread
      obtain ⟨hwf, htext⟩ := NumberLiteral.read?_eq_some_iff.1 hread
      exact h.literal literal hwf htext

/-- The number that is kept of a case covers the integers of the case. -/
theorem holds_numericCase_iff {case : String} (hfloating : ¬Number.IsFloating case)
    {found : Option NumericCase}
    (h : numericCase case = .ok found) (n : Int) :
    (∃ kept, found = some kept ∧ kept.holds n = true) ↔ Covers case n := by
  unfold numericCase at h
  dsimp only at h
  split at h
  · rename_i range hrange
    obtain ⟨low, hlow, h⟩ := bind_eq_ok_iff.1 h
    obtain ⟨high, hhigh, h⟩ := bind_eq_ok_iff.1 h
    obtain rfl := Except.ok.inj h
    obtain ⟨-, rfl⟩ := IntegerLiteral.value_eq_ok_iff.1 hlow
    obtain ⟨-, rfl⟩ := IntegerLiteral.value_eq_ok_iff.1 hhigh
    have hcontains : (NumericCase.range range.low.integer range.high.integer range.inclusive).holds
      n = true ↔
        range.Contains n := by
      unfold NumericCase.holds RangeCase.Contains
      cases range.inclusive <;> simp [le_iff_lt_or_eq]
    constructor
    · rintro ⟨kept, hkept, hholds⟩
      obtain rfl := Option.some.inj hkept
      exact .range (rangeCase?_eq_some_iff.1 hrange) (hcontains.1 hholds)
    · rintro (⟨literal, hwf, htext, hinteger, -⟩ | ⟨hwritten, hn⟩)
      · rw [← htext, rangeCase?_of_isInteger hwf hinteger] at hrange
        cases hrange
      · rw [rangeCase?_eq_some_iff.2 hwritten] at hrange
        obtain rfl := Option.some.inj hrange
        exact ⟨_, rfl, hcontains.2 hn⟩
  · rename_i hrange
    rw [parse_trim_case] at h
    obtain ⟨number, hnumber, rfl⟩ := map_eq_ok_iff.1 h
    have hcovers : Covers case n ↔ number = some (.integer n) := by
      rw [← Number.denotes_iff_of_parse hnumber]
      refine ⟨?_, .literal⟩
      rintro (hdenotes | ⟨hwritten, -⟩)
      · exact hdenotes
      · rw [rangeCase?_eq_some_iff.2 hwritten] at hrange
        cases hrange
    rw [hcovers]
    cases number with
    | none => simp
    | some number =>
      obtain ⟨m, rfl⟩ := Number.exists_integer_of_parse hfloating hnumber
      simp [NumericCase.holds, Number.compare_integer]

/-- **The numbers that are kept of the cases cover the integers of the cases.** -/
theorem holds_numericCases_iff {used : List String}
    (hfloating : ∀ case ∈ used, ¬Number.IsFloating case)
    {cases : List NumericCase} (h : numericCases used = .ok cases) (n : Int) :
    (∃ kept ∈ cases, kept.holds n = true) ↔ ∃ case ∈ used, Covers case n := by
  induction used generalizing cases with
  | nil =>
    obtain rfl := Except.ok.inj h
    simp
  | cons case rest ih =>
    obtain ⟨hcase, hrest⟩ := List.forall_mem_cons.1 hfloating
    obtain ⟨first, hfirst, h⟩ := bind_eq_ok_iff.1 h
    obtain ⟨others, hothers, h⟩ := bind_eq_ok_iff.1 h
    obtain rfl := Except.ok.inj h
    rw [List.exists_mem_cons_iff, ← ih hrest hothers, ← holds_numericCase_iff hcase hfirst]
    simp [or_and_right, exists_or]

end WhenPlan

end BranchCover
