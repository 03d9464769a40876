import BranchCover.Proofs.Oracle.Expression
import BranchCover.Proofs.Text.Lines
import BranchCover.Proofs.Text.Scan

/-!
# How a body is written

A body writes an expression if it has a single statement, and the statement is the expression with
or without `return`. A sign `=` may stand in front, and braces around; statements end at semicolons
and line feeds.

* `statements_append_mark`: the statements before a mark and behind it.
* `statements_eq_singleton_iff`: the texts with one statement.
* `Encloses`, `BodyHolds`: a text with braces and an equals sign around its statement.
* `read_body_iff`: a body is read as exactly the expression that it writes.
-/

namespace BranchCover.Oracle

variable {text line before after : List Char} {expression : Expression}

/-! ### The steps of the reading -/

/-- A character that ends a statement. -/
def isMark (c : Char) : Bool := c == ';' || c == '\n'

/-- A trimmed text without the equals sign in front. -/
def withoutAssignment : List Char → List Char
  | '=' :: rest => Text.trim rest
  | text => text

/-- A trimmed text without the braces around it. -/
def withoutBraces (text : List Char) : List Char :=
  if text.head? == some '\x7b' && text.getLast? == some '\x7d' then Text.trim (Text.innerText text)
    else text

/-- The statements of a text: the pieces between the marks that are not blank, trimmed. -/
def statements (text : List Char) : List (List Char) :=
  ((Text.splitAtChars isMark text).map Text.trim).filter (!·.isEmpty)

/-- A statement without `return`. -/
def withoutReturn (line : List Char) : List Char :=
  match Text.dropHead? "return ".toList line with
  | some rest => Text.trim rest
  | none => line

theorem statement?_eq (body : String) :
    statement? body =
      match statements (withoutBraces (withoutAssignment (Text.trim body.toList))) with
      | [line] => some (withoutReturn line)
      | _ => none := by
  show (match statements (withoutBraces (withoutAssignment (Text.trim body.toList))) with
    | [line] =>
      match Text.dropHead? "return ".toList line with
      | some rest => some (Text.trim rest)
      | none => some line
    | _ => none) = _
  split
  · rename_i line hline
    rw [withoutReturn]
    split <;> rfl
  · rfl

/-! ### Statements -/

/-- What a text may have around its only statement: blanks and semicolons. -/
def IsPadding (text : List Char) : Prop := ∀ c ∈ text, Text.isBlank c = true ∨ c = ';'

theorem isPadding_nil : IsPadding [] := by simp [IsPadding]

theorem IsPadding.append {first second : List Char} (hfirst : IsPadding first)
    (hsecond : IsPadding second) :
    IsPadding (first ++ second) := List.forall_mem_append.2 ⟨hfirst, hsecond⟩

theorem isPadding_of_blank (h : ∀ c ∈ text, Text.isBlank c = true) : IsPadding text :=
  fun c hc => Or.inl (h c hc)

/-- A text without marks, or one with its first mark split off: everything about statements follows
from these two. -/
theorem marks_induction {P : List Char → Prop}
    (plain : ∀ line, (∀ c ∈ line, isMark c = false) → P line)
    (mark : ∀ line c rest, (∀ d ∈ line, isMark d = false) → isMark c = true → P rest →
      P (line ++ c :: rest))
    (text : List Char) : P text := by
  have hfrom : ∀ rest line : List Char, (∀ d ∈ line, isMark d = false) → P (line ++ rest) := by
    intro rest
    induction rest with
    | nil =>
      intro line hline
      rw [List.append_nil]
      exact plain line hline
    | cons c rest ih =>
      intro line hline
      by_cases hc : isMark c = true
      · exact mark line c rest hline hc (ih [] (by simp))
      · rw [List.append_cons]
        refine ih _ (List.forall_mem_append.2 ⟨hline, ?_⟩)
        simpa using hc
  exact hfrom text [] (by simp)

/-- The statements of a text are those before a mark and those behind it. -/
theorem statements_append_mark {c : Char} (hc : isMark c = true) (first second : List Char) :
    statements (first ++ c :: second) = statements first ++ statements second := by
  unfold statements Text.splitAtChars
  rw [Text.splitFrom_eq_append [] second hc, List.map_append, List.filter_append]

theorem statements_plain (h : ∀ c ∈ line, isMark c = false) :
    statements line = if Text.trim line = [] then [] else [Text.trim line] := by
  rw [statements, Text.splitAtChars_eq_singleton h, List.map_singleton]
  split_ifs with hempty
  · simp [hempty]
  · simp [hempty]

theorem statements_cons_padding {c : Char} (hc : Text.isBlank c = true ∨ c = ';')
    (text : List Char) :
    statements (c :: text) = statements text := by
  by_cases hmark : isMark c = true
  · exact statements_append_mark hmark [] text
  · have hblank : Text.isBlank c = true := by
      rcases hc with hblank | rfl
      · exact hblank
      · exact absurd rfl hmark
    have htrim : ∀ line : List Char, Text.trim (c :: line) = Text.trim line := by
      intro line
      rw [← List.singleton_append]
      exact Text.trim_blank_append (by simpa using hblank) line
    have hplain : ∀ {line : List Char}, (∀ d ∈ line, isMark d = false) →
        statements (c :: line) = statements line := by
      intro line hline
      rw [statements_plain hline, statements_plain
        (List.forall_mem_cons.2 ⟨by simpa using hmark, hline⟩), htrim]
    induction text using marks_induction with
    | plain line hline => exact hplain hline
    | mark line d rest hline hd _ =>
      rw [← List.cons_append, statements_append_mark hd, statements_append_mark hd, hplain hline]

theorem statements_concat_padding {c : Char} (hc : Text.isBlank c = true ∨ c = ';')
    (text : List Char) :
    statements (text ++ [c]) = statements text := by
  by_cases hmark : isMark c = true
  · have hnil : statements [] = [] := rfl
    rw [statements_append_mark hmark, hnil, List.append_nil]
  · have hblank : Text.isBlank c = true := by
      rcases hc with hblank | rfl
      · exact hblank
      · exact absurd rfl hmark
    induction text using marks_induction with
    | plain line hline =>
      have htrim : Text.trim (line ++ [c]) = Text.trim line :=
        Text.trim_append_blank (by simpa using hblank) line
      have hlast : ∀ d ∈ line ++ [c], isMark d = false :=
        List.forall_mem_append.2 ⟨hline, by simpa using hmark⟩
      rw [statements_plain hline, statements_plain hlast, htrim]
    | mark line d rest _ hd ih =>
      rw [List.append_assoc, List.cons_append, statements_append_mark hd,
        statements_append_mark hd, ih]

theorem statements_padding_append (h : IsPadding before) (text : List Char) :
    statements (before ++ text) = statements text := by
  induction before with
  | nil => rfl
  | cons c before ih =>
    obtain ⟨hc, hbefore⟩ := List.forall_mem_cons.1 h
    rw [List.cons_append, statements_cons_padding hc, ih hbefore]

theorem statements_append_padding (h : IsPadding after) (text : List Char) :
    statements (text ++ after) = statements text := by
  induction after generalizing text with
  | nil => rw [List.append_nil]
  | cons c after ih =>
    obtain ⟨hc, hafter⟩ := List.forall_mem_cons.1 h
    rw [List.append_cons, ih hafter, statements_concat_padding hc]

/-- Padding around a text adds no statement and changes none. -/
theorem statements_pad (hbefore : IsPadding before) (hafter : IsPadding after) :
    statements (before ++ (text ++ after)) = statements text :=
  (statements_padding_append hbefore _).trans (statements_append_padding hafter _)

@[simp] theorem statements_trim (text : List Char) :
    statements (Text.trim text) = statements text := by
  obtain ⟨before, after, hbefore, hafter, htext⟩ := Text.exists_pad text
  conv_rhs => rw [htext]
  exact (statements_pad (isPadding_of_blank hbefore) (isPadding_of_blank hafter)).symm

theorem statements_eq_nil_iff : statements text = [] ↔ IsPadding text := by
  constructor
  · intro h
    induction text using marks_induction with
    | plain line hline =>
      rw [statements_plain hline] at h
      split_ifs at h with hempty
      exact isPadding_of_blank (Text.trim_eq_nil_iff.1 hempty)
    | mark line c rest hline hc ih =>
      rw [statements_append_mark hc, List.append_eq_nil_iff, statements_plain hline] at h
      obtain ⟨hfirst, hrest⟩ := h
      split_ifs at hfirst with hempty
      have hmark : Text.isBlank c = true ∨ c = ';' := by
        rcases Bool.or_eq_true_iff.1 hc with heq | heq
        · exact Or.inr (by simpa using heq)
        · obtain rfl : c = '\n' := by simpa using heq
          exact Or.inl (by decide)
      exact (isPadding_of_blank (Text.trim_eq_nil_iff.1 hempty)).append
        (List.forall_mem_cons.2 ⟨hmark, ih hrest⟩)
  · intro h
    have hpad := statements_padding_append h []
    rwa [List.append_nil] at hpad

/-- A line that can be a statement: trimmed, not empty and without marks. -/
structure IsLine (line : List Char) : Prop where
  nonempty : line ≠ []
  trimmed : Text.trim line = line
  plain : ∀ c ∈ line, isMark c = false

theorem IsLine.getLast? (h : IsLine line) {c : Char} (hc : line.getLast? = some c) :
    Text.isBlank c = false :=
  Text.getLast?_trim (by rwa [h.trimmed])

theorem IsLine.statements (h : IsLine line) : statements line = [line] := by
  rw [statements_plain h.plain, h.trimmed, if_neg h.nonempty]

/-- A text has a line as its only statement: it is the line with padding around. -/
def Holds (text line : List Char) : Prop :=
  ∃ before after, IsPadding before ∧ IsPadding after ∧ text = before ++ (line ++ after)

theorem Holds.pad (h : Holds text line) (hbefore : IsPadding before) (hafter : IsPadding after) :
    Holds (before ++ (text ++ after)) line := by
  obtain ⟨first, last, hfirst, hlast, rfl⟩ := h
  exact ⟨before ++ first, last ++ after, hbefore.append hfirst, hlast.append hafter, by simp⟩

/-- **A text has exactly one statement if that is all but padding.** -/
theorem statements_eq_singleton_iff : statements text = [line] ↔ IsLine line ∧ Holds text line := by
  constructor
  · intro h
    induction text using marks_induction with
    | plain text htext =>
      rw [statements_plain htext] at h
      split_ifs at h with hempty
      obtain rfl : Text.trim text = line := by simpa using h
      obtain ⟨before, after, hbefore, hafter, hpad⟩ := Text.exists_pad text
      exact ⟨⟨hempty, Text.trim_trim text,
        fun c hc => htext c ((Text.isInfix_trim text).subset hc)⟩,
        before, after, isPadding_of_blank hbefore, isPadding_of_blank hafter, hpad⟩
    | mark first c rest hfirst hc ih =>
      have hmark : IsPadding [c] := statements_eq_nil_iff.1 (statements_append_mark hc [] [])
      rw [statements_append_mark hc, statements_plain hfirst] at h
      by_cases hempty : Text.trim first = []
      · rw [if_pos hempty, List.nil_append] at h
        obtain ⟨hline, hholds⟩ := ih h
        have hblank := isPadding_of_blank (Text.trim_eq_nil_iff.1 hempty)
        have hpad := hholds.pad (hblank.append hmark) isPadding_nil
        exact ⟨hline, by simpa using hpad⟩
      · rw [if_neg hempty, List.singleton_append, List.cons.injEq] at h
        obtain ⟨rfl, hrest⟩ := h
        obtain ⟨before, after, hbefore, hafter, hpad⟩ := Text.exists_pad first
        refine ⟨⟨hempty, Text.trim_trim first,
          fun d hd => hfirst d ((Text.isInfix_trim first).subset hd)⟩,
          before, after ++ c :: rest, isPadding_of_blank hbefore,
          (isPadding_of_blank hafter).append ?_, ?_⟩
        · exact hmark.append (statements_eq_nil_iff.1 hrest)
        · conv_lhs => rw [hpad]
          simp
  · rintro ⟨hline, before, after, hbefore, hafter, rfl⟩
    rw [statements_pad hbefore hafter, hline.statements]

/-! ### Braces and the equals sign -/

/-- A text has a line as its only statement, with or without braces around. -/
inductive Encloses : List Char → List Char → Prop
  | bare {text line : List Char} (h : Holds text line) : Encloses text line
  | braced {before inner after line : List Char} (hbefore : ∀ c ∈ before, Text.isBlank c = true)
      (hafter : ∀ c ∈ after, Text.isBlank c = true) (h : Holds inner line) :
      Encloses (before ++ ('\x7b' :: (inner ++ ['\x7d']) ++ after)) line

/-- A body has a line as its only statement, with or without an equals sign in front. -/
inductive BodyHolds : List Char → List Char → Prop
  | plain {text line : List Char} (h : Encloses text line) : BodyHolds text line
  | assigned {before text line : List Char} (hbefore : ∀ c ∈ before, Text.isBlank c = true)
      (h : Encloses text line) : BodyHolds (before ++ '=' :: text) line

theorem Encloses.pad (h : Encloses text line) (hbefore : ∀ c ∈ before, Text.isBlank c = true)
    (hafter : ∀ c ∈ after, Text.isBlank c = true) : Encloses (before ++ (text ++ after)) line := by
  cases h with
  | bare h => exact .bare (h.pad (isPadding_of_blank hbefore) (isPadding_of_blank hafter))
  | @braced first inner last _ hfirst hlast h =>
    have hpad := Encloses.braced (List.forall_mem_append.2 ⟨hbefore, hfirst⟩)
      (List.forall_mem_append.2 ⟨hlast, hafter⟩) h
    simpa using hpad

/-- A text that starts with an opening brace and ends with a closing one. -/
theorem exists_inner (hfirst : text.head? = some '\x7b') (hlast : text.getLast? = some '\x7d') :
    ∃ inner, text = '\x7b' :: (inner ++ ['\x7d']) := by
  obtain ⟨rest, rfl⟩ := List.head?_eq_some_iff.1 hfirst
  have hne : rest ≠ [] := by
    rintro rfl
    exact absurd (Option.some.inj hlast) (by decide)
  rw [List.getLast?_cons_of_ne_nil hne] at hlast
  obtain ⟨inner, rfl⟩ := List.getLast?_eq_some_iff.1 hlast
  exact ⟨inner, rfl⟩

theorem withoutBraces_braced (inner : List Char) :
    withoutBraces ('\x7b' :: (inner ++ ['\x7d'])) = Text.trim inner := by
  have hlast : ('\x7b' :: (inner ++ ['\x7d'])).getLast? = some '\x7d' := by
    rw [← List.cons_append, List.getLast?_concat]
  unfold withoutBraces
  rw [hlast]
  simp

theorem encloses_of_withoutBraces (h : statements (withoutBraces text) = [line]) :
    IsLine line ∧ Encloses text line := by
  unfold withoutBraces at h
  split_ifs at h with hbraces
  · rw [Bool.and_eq_true, beq_iff_eq, beq_iff_eq] at hbraces
    obtain ⟨inner, rfl⟩ := exists_inner hbraces.1 hbraces.2
    rw [Text.innerText_cons_concat, statements_trim] at h
    obtain ⟨hline, hholds⟩ := statements_eq_singleton_iff.1 h
    have hnil : ∀ c ∈ ([] : List Char), Text.isBlank c = true := by simp
    have hbraced := Encloses.braced hnil hnil hholds
    exact ⟨hline, by simpa using hbraced⟩
  · obtain ⟨hline, hholds⟩ := statements_eq_singleton_iff.1 h
    exact ⟨hline, .bare hholds⟩

/-- What is left without the equals sign and the braces has a line as its only statement: so has the
body. -/
theorem bodyHolds_of_statements
    (h : statements (withoutBraces (withoutAssignment (Text.trim text))) = [line]) :
    IsLine line ∧ BodyHolds text line := by
  obtain ⟨before, after, hbefore, hafter, htext⟩ := Text.exists_pad text
  obtain ⟨hline, hencloses⟩ := encloses_of_withoutBraces h
  refine ⟨hline, ?_⟩
  rw [htext]
  generalize Text.trim text = trimmedText at hencloses ⊢
  unfold withoutAssignment at hencloses
  split at hencloses
  · rename_i rest
    obtain ⟨first, last, hfirst, hlast, hrest⟩ := Text.exists_pad rest
    have hassigned := hencloses.pad hfirst (List.forall_mem_append.2 ⟨hlast, hafter⟩)
    rw [← List.append_assoc (Text.trim rest), ← List.append_assoc first, ← hrest] at hassigned
    rw [List.cons_append]
    exact .assigned hbefore hassigned
  · exact .plain (hencloses.pad hbefore hafter)

/-- The first character of a line is neither an equals sign nor an opening brace. -/
def StartsPlainly (line : List Char) : Prop := ∀ c, line.head? = some c → c ≠ '=' ∧ c ≠ '\x7b'

theorem Holds.startsPlainly (h : Holds text line) (hline : IsLine line)
    (hfirst : StartsPlainly line) :
    StartsPlainly text := by
  obtain ⟨before, after, hbefore, -, rfl⟩ := h
  intro c hc
  cases before with
  | nil =>
    rw [List.nil_append, List.head?_append_of_ne_nil _ hline.nonempty] at hc
    exact hfirst c hc
  | cons d before =>
    obtain rfl := Option.some.inj hc
    rcases hbefore d List.mem_cons_self with hblank | rfl
    · constructor <;> rintro rfl <;> exact absurd hblank (by decide)
    · decide

theorem statements_of_encloses (h : Encloses text line) (hline : IsLine line)
    (hfirst : StartsPlainly line) :
    statements (withoutBraces (Text.trim text)) = [line] ∧
      withoutAssignment (Text.trim text) = Text.trim text := by
  cases h with
  | bare h =>
    have hstatements : statements (Text.trim text) = [line] := by
      rw [statements_trim]
      exact statements_eq_singleton_iff.2 ⟨hline, h⟩
    have hplain : StartsPlainly (Text.trim text) :=
      (statements_eq_singleton_iff.1 hstatements).2.startsPlainly hline hfirst
    constructor
    · have hbrace : (Text.trim text).head? ≠ some '\x7b' := fun hc => (hplain _ hc).2 rfl
      rw [withoutBraces, if_neg (by simp [hbrace])]
      exact hstatements
    · unfold withoutAssignment
      split
      · rename_i rest heq
        exact absurd rfl (hplain '=' (by rw [heq]; rfl)).1
      · rfl
  | @braced before inner after _ hbefore hafter h =>
    have htrim : Text.trim (before ++ ('\x7b' :: (inner ++ ['\x7d']) ++ after)) =
        '\x7b' :: (inner ++ ['\x7d']) := by
      rw [Text.trim_pad hbefore hafter]
      refine Text.trim_eq_self ?_ ?_
      · intro c hc
        obtain rfl := Option.some.inj hc
        decide
      · intro c hc
        rw [← List.cons_append, List.getLast?_concat] at hc
        obtain rfl := Option.some.inj hc
        decide
    rw [htrim]
    refine ⟨?_, rfl⟩
    rw [withoutBraces_braced, statements_trim]
    exact statements_eq_singleton_iff.2 ⟨hline, h⟩

/-- The equals sign in front is taken away, with the blanks around it. -/
theorem withoutAssignment_assigned (hbefore : ∀ c ∈ before, Text.isBlank c = true)
    (text : List Char) :
    withoutAssignment (Text.trim (before ++ '=' :: text)) = Text.trim text := by
  have hend : Text.trimEnd ('=' :: text) = '=' :: Text.trimEnd text := by
    unfold Text.trimEnd
    rw [Text.dropEndWhile]
    split
    · rename_i hnil
      rw [hnil]
      rfl
    · rfl
  have htrim : Text.trim (before ++ '=' :: text) = '=' :: Text.trimEnd text := by
    rw [Text.trim, Text.trimStart_append_cons hbefore (by decide), hend]
  rw [htrim]
  show Text.trim (Text.trimEnd text) = Text.trim text
  -- trimming the end first changes nothing
  have hdrop : text = Text.trimEnd text ++ text.rtakeWhile Text.isBlank := by
    rw [Text.trimEnd, Text.dropEndWhile_eq_rdropWhile, List.rdropWhile_append_rtakeWhile]
  conv_rhs => rw [hdrop]
  exact (Text.trim_append_blank (fun _ => List.mem_rtakeWhile_imp) _).symm

theorem statements_of_bodyHolds (h : BodyHolds text line) (hline : IsLine line)
    (hfirst : StartsPlainly line) :
    statements (withoutBraces (withoutAssignment (Text.trim text))) = [line] := by
  cases h with
  | plain h =>
    obtain ⟨hstatements, hassignment⟩ := statements_of_encloses h hline hfirst
    rw [hassignment, hstatements]
  | assigned hbefore h =>
    rw [withoutAssignment_assigned hbefore]
    exact (statements_of_encloses h hline hfirst).1

/-! ### The statement -/

/-- How a statement is written: as an expression, or as one behind `return`. -/
inductive StatementWritten : List Char → Expression → Prop
  | expression {line : List Char} {expression : Expression} (h : Expression.Written line expression)
      (hreturn : ¬"return ".toList <+: line) : StatementWritten line expression
  | returned {gap text : List Char} {expression : Expression}
      (hgap : ∀ c ∈ gap, Text.isBlank c = true)
      (h : Expression.Written text expression) :
        StatementWritten ("return ".toList ++ (gap ++ text)) expression

/-- A body writes an expression: its only statement, without a semicolon or a line feed, is written
as it. -/
def BodyWrites (body : List Char) (expression : Expression) : Prop :=
  ∃ line, BodyHolds body line ∧ StatementWritten line expression ∧ ∀ c ∈ line, c ≠ ';' ∧ c ≠ '\n'

/-- An expression starts and ends with no blank. -/
theorem Expression.Written.trim_eq (h : Expression.Written text expression) :
    text ≠ [] ∧ Text.trim text = text ∧ StartsPlainly text := by
  obtain ⟨c, rest, htext, hc⟩ : ∃ c rest, text = c :: rest ∧ StartsOperand c := by
    cases h with
    | operand h => exact h.head?
    | @binary left right before after op a b hleft _ _ _ =>
      obtain ⟨c, rest, rfl, hc⟩ := hleft.head?
      exact ⟨c, _, List.cons_append, hc⟩
  have hlast : ∀ d, text.getLast? = some d → Text.isWord d = true ∨ Text.isDecimal d = true := by
    intro d hd
    cases h with
    | operand h => exact h.getLast? hd
    | @binary left right before after op a b _ _ _ hright =>
      obtain ⟨e, tail, hright', -⟩ := hright.head?
      have hne : right ≠ [] := by simp [hright']
      rw [List.getLast?_append_of_ne_nil _ (by simp), List.getLast?_append_of_ne_nil _ (by simp),
        List.getLast?_cons_of_ne_nil (by simp [hne]), List.getLast?_append_of_ne_nil _ hne] at hd
      exact hright.getLast? hd
  subst htext
  refine ⟨List.cons_ne_nil _ _, Text.trim_eq_self ?_ ?_, ?_⟩
  · intro d hd
    obtain rfl := Option.some.inj hd
    exact hc.isBlank
  · intro d hd
    refine Bool.eq_false_iff.2 fun hblank => ?_
    rcases hlast d hd with hword | hdecimal
    · rw [Text.isWord_of_isBlank hblank] at hword
      cases hword
    · rw [Text.isBlank_of_isDecimal hdecimal] at hblank
      cases hblank
  · intro d hd
    obtain rfl := Option.some.inj hd
    rcases hc with rfl | hdecimal | hstart
    · decide
    · constructor <;> rintro rfl <;> exact absurd hdecimal (by decide)
    · constructor <;> rintro rfl <;> exact absurd hstart (by decide)

theorem StatementWritten.isLine (h : StatementWritten line expression)
    (hplain : ∀ c ∈ line, c ≠ ';' ∧ c ≠ '\n') :
    IsLine line ∧ StartsPlainly line := by
  have hmarks : ∀ c ∈ line, isMark c = false := by
    intro c hc
    simp [isMark, hplain c hc]
  cases h with
  | expression h _ =>
    obtain ⟨hne, htrim, hfirst⟩ := h.trim_eq
    exact ⟨⟨hne, htrim, hmarks⟩, hfirst⟩
  | @returned gap text _ _ h =>
    obtain ⟨hne, htrim, -⟩ := h.trim_eq
    refine ⟨⟨by simp, Text.trim_eq_self ?_ ?_, hmarks⟩, ?_⟩
    · intro c hc
      obtain rfl := Option.some.inj hc
      decide
    · intro c hc
      rw [List.getLast?_append_of_ne_nil _ (by simp [hne]),
        List.getLast?_append_of_ne_nil _ hne] at hc
      exact Text.getLast?_trim (by rwa [htrim])
    · intro c hc
      obtain rfl := Option.some.inj hc
      decide

/-- A line is read as the expression of the statement that it writes. -/
theorem read?_withoutReturn_iff (hline : IsLine line) :
    Expression.read? (withoutReturn line) = some expression ↔ StatementWritten line expression := by
  rw [Expression.read?_eq_some_iff]
  constructor
  · intro h
    unfold withoutReturn at h
    split at h
    · rename_i rest hrest
      obtain rfl := Text.dropHead?_eq_some_iff.1 hrest
      have hlast : ∀ c, rest.getLast? = some c → Text.isBlank c = false := by
        intro c hc
        refine hline.getLast? ?_
        rw [List.getLast?_append, hc]
        rfl
      rw [Text.trim_eq_trimStart hlast] at h
      rw [← Text.append_trimStart rest]
      exact .returned (fun c => List.mem_takeWhile_imp) h
    · rename_i hnone
      refine .expression h ?_
      rintro ⟨rest, rfl⟩
      rw [Text.dropHead?_eq_some_iff.2 rfl] at hnone
      cases hnone
  · intro h
    cases h with
    | expression h hreturn =>
      unfold withoutReturn
      split
      · rename_i rest hrest
        exact absurd ⟨rest, (Text.dropHead?_eq_some_iff.1 hrest).symm⟩ hreturn
      · exact h
    | @returned gap text _ hgap h =>
      have htrim : Text.trim (gap ++ text) = text := by
        rw [Text.trim_blank_append hgap, h.trim_eq.2.1]
      rw [withoutReturn, Text.dropHead?_eq_some_iff.2 rfl]
      show Expression.Written (Text.trim (gap ++ text)) expression
      rwa [htrim]

/-- **A body is read as exactly the expression that it writes.** -/
theorem read_body_iff {body : String} :
    (statement? body).bind Expression.read? = some expression ↔
    BodyWrites body.toList expression := by
  rw [statement?_eq]
  constructor
  · intro h
    split at h
    · rename_i line hstatements
      obtain ⟨hline, hholds⟩ := bodyHolds_of_statements hstatements
      refine ⟨line, hholds, (read?_withoutReturn_iff hline).1 h, fun c hc => ?_⟩
      have hmark := hline.plain c hc
      simpa [isMark] using hmark
    · cases h
  · rintro ⟨line, hholds, hwritten, hplain⟩
    obtain ⟨hline, hfirst⟩ := hwritten.isLine hplain
    rw [statements_of_bodyHolds hholds hline hfirst]
    exact (read?_withoutReturn_iff hline).2 hwritten

/-- An integer literal is a body that writes itself. -/
theorem bodyWrites_literal {literal : Literal.IntegerLiteral} (h : literal.WellFormed) :
    BodyWrites literal.text (.operand (.integer literal)) := by
  have hwritten : Operand.Written literal.text (.integer literal) := by
    simpa using Operand.Written.integer h (Or.inl rfl)
  have hplain : ∀ c ∈ literal.text, c = '-' ∨ Text.isDecimal c = true := by
    intro c hc
    rw [Literal.IntegerLiteral.text_eq, List.mem_append] at hc
    rcases hc with hc | hc
    · split_ifs at hc
      · exact Or.inl (by simpa using hc)
      · cases hc
    · exact Or.inr (h.decimal c hc)
  have hother : ∀ c ∈ literal.text, c ≠ 'r' ∧ c ≠ ';' ∧ c ≠ '\n' := by
    intro c hc
    rcases hplain c hc with rfl | hdecimal
    · decide
    · refine ⟨?_, ?_, ?_⟩ <;> rintro rfl <;> exact absurd hdecimal (by decide)
  refine ⟨literal.text, .plain (.bare ⟨[], [], isPadding_nil, isPadding_nil, by simp⟩),
    .expression (.operand hwritten) fun hreturn => ?_, fun c hc => (hother c hc).2⟩
  exact (hother 'r' (hreturn.subset (by decide))).1 rfl

end BranchCover.Oracle
