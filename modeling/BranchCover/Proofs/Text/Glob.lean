import BranchCover.Text.Glob
import Mathlib.Data.List.Infix

/-!
# Globs of plain texts, and globs put together

A plain text has no character that means anything else in a glob, so it matches itself alone. With a
star behind it, it matches what begins with it, and with a star before it what ends in it. Two globs
one behind the other match the texts that are put together from texts that they match, unless the
second one closes a bracket of the first.

* `Glob.accepts_plain`, `Glob.accepts_anyText`: what characters and stars accept, with any items
  behind them.
* `globMatch_plain_iff`, `globMatch_plain_star_iff`, `globMatch_star_plain_iff`: the three kinds of
  globs.
* `globMatch_append_iff`: two globs, one behind the other.
-/

namespace BranchCover

namespace Glob

variable {text word : List Char} {items : List GlobItem}

/-- Each character of a text stands for itself in a glob. -/
def Plain (text : List Char) : Prop := ∀ c ∈ text, c ≠ '*' ∧ c ≠ '?' ∧ c ≠ '['

instance : DecidablePred Plain := List.decidableBAll fun c => c ≠ '*' ∧ c ≠ '?' ∧ c ≠ '['

theorem parseFrom_plain_append (hword : Plain word) (rest : List Char) :
    parseFrom 0 (word ++ rest) = word.map .char ++ parseFrom 0 rest := by
  induction word with
  | nil => rfl
  | cons c word ih =>
    obtain ⟨⟨hstar, hmark, hbracket⟩, hword⟩ := List.forall_mem_cons.1 hword
    rw [List.cons_append, parseFrom, if_neg hstar, if_neg hmark, if_neg hbracket, ih hword]
    rfl

theorem parse_plain (hword : Plain word) : parse word = word.map .char := by
  simpa [parse, parseFrom] using parseFrom_plain_append hword []

@[simp] theorem mem_endings {rest : List Char} : rest ∈ endings text ↔ rest <:+ text := by
  induction text with
  | nil => simp [endings]
  | cons c text ih => rw [endings, List.mem_cons, ih, List.suffix_cons_iff]

/-- A star accepts any beginning of a text. -/
theorem accepts_anyText : accepts (.anyText :: items) text = true ↔
    ∃ rest, rest <:+ text ∧ accepts items rest = true := by
  simp [accepts]

/-- Characters accept themselves at the head of a text. -/
theorem accepts_plain :
    accepts (word.map .char ++ items) text = true ↔
    ∃ rest, text = word ++ rest ∧ accepts items rest = true := by
  induction word generalizing text with
  | nil => simp
  | cons c word ih =>
    cases text with
    | nil => simp [accepts]
    | cons d text => simp [accepts, admits, ih, and_assoc]

/-- Any other item than a star accepts one character. -/
theorem accepts_cons {item : GlobItem} (hitem : item ≠ .anyText) :
    accepts (item :: items) text = true ↔
    ∃ c rest, text = c :: rest ∧ admits item c = true ∧ accepts items rest = true := by
  cases item with
  | anyText => exact absurd rfl hitem
  | anyChar | char | set => cases text <;> simp [accepts]

/-- Items one behind the other accept texts one behind the other. -/
theorem accepts_append {later : List GlobItem} :
    accepts (items ++ later) text = true ↔
      ∃ before after, text = before ++ after ∧ accepts items before = true ∧
        accepts later after = true := by
  induction items generalizing text with
  | nil => simp [accepts]
  | cons item items ih =>
    rw [List.cons_append]
    by_cases hitem : item = .anyText
    · subst hitem
      simp only [accepts_anyText, ih]
      constructor
      · rintro ⟨_, ⟨front, rfl⟩, before, after, rfl, hbefore, hafter⟩
        exact ⟨front ++ before, after, by simp, ⟨before, List.suffix_append .., hbefore⟩, hafter⟩
      · rintro ⟨_, after, rfl, ⟨before, ⟨front, rfl⟩, hbefore⟩, hafter⟩
        exact ⟨before ++ after, ⟨front, by simp⟩, before, after, rfl, hbefore, hafter⟩
    · simp only [accepts_cons hitem, ih]
      constructor
      · rintro ⟨c, _, rfl, hc, before, after, rfl, hbefore, hafter⟩
        exact ⟨c :: before, after, rfl, ⟨c, before, rfl, hc, hbefore⟩, hafter⟩
      · rintro ⟨_, after, rfl, ⟨c, before, rfl, hc, hbefore⟩, hafter⟩
        exact ⟨c, before ++ after, rfl, hc, before, after, rfl, hbefore, hafter⟩

/-! ### Brackets -/

variable {inside opened later pattern : List Char}

theorem closeSet_eq_none (h : ']' ∉ text) (opened : List Char) : closeSet opened text = none := by
  induction text generalizing opened with
  | nil => rfl
  | cons c text ih =>
    obtain ⟨hc, htext⟩ := not_or.1 (mt List.mem_cons.2 h)
    rw [closeSet, if_neg (Ne.symm hc), ih htext]

theorem closeSet_append (h : ']' ∉ later) (opened text : List Char) :
    closeSet opened (text ++ later) = closeSet opened text := by
  induction text generalizing opened with
  | nil => exact closeSet_eq_none h opened
  | cons c text ih => rw [List.cons_append, closeSet, closeSet, ih]

theorem length_closeSet (h : closeSet opened text = some inside) :
    inside.length < opened.length + text.length := by
  induction text generalizing opened with
  | nil => cases h
  | cons c text ih =>
    rw [closeSet] at h
    split_ifs at h
    · obtain rfl := Option.some.inj h
      simp
    · simpa [Nat.add_comm, Nat.add_left_comm] using ih h

theorem setInside?_eq_none (h : ']' ∉ text) : setInside? text = none := by
  unfold setInside?
  split
  · simp at h
  · exact closeSet_eq_none (mt (List.mem_cons_of_mem _) h) _
  · simp at h
  · exact closeSet_eq_none h _

/-- What stands behind a text is no part of a set in it, unless it closes the set. -/
theorem setInside?_append (h : ']' ∉ later) (text : List Char) :
    setInside? (text ++ later) = setInside? text := by
  rcases text with _ | ⟨c, _ | ⟨d, text⟩⟩
  · exact setInside?_eq_none h
  · by_cases hc : c = ']'
    · subst hc
      exact closeSet_eq_none h _
    · rw [setInside?_eq_none (by simp [h, Ne.symm hc]), setInside?_eq_none (by simp [Ne.symm hc])]
  · by_cases hc : c = '!'
    · subst hc
      by_cases hd : d = ']'
      · subst hd
        exact closeSet_append h _ text
      · simpa [setInside?, hd] using closeSet_append h ['!'] (d :: text)
    · by_cases hbracket : c = ']'
      · subst hbracket
        exact closeSet_append h _ (d :: text)
      · simpa [setInside?, hc, hbracket] using closeSet_append h [] (c :: d :: text)

theorem length_setInside? (h : setInside? text = some inside) : inside.length < text.length := by
  unfold setInside? at h
  split at h
  all_goals
    have hlength := length_closeSet h
    simp only [List.length_cons, List.length_nil] at hlength ⊢
    omega

/-- The items of two globs, one behind the other, if the second one closes no bracket. -/
theorem parseFrom_append (h : ']' ∉ later) (skip : ℕ) (hskip : skip ≤ pattern.length) :
    parseFrom skip (pattern ++ later) = parseFrom skip pattern ++ parseFrom 0 later := by
  induction pattern generalizing skip with
  | nil =>
    obtain rfl := Nat.le_zero.1 hskip
    rfl
  | cons c pattern ih =>
    cases skip with
    | succ skip => exact ih skip (Nat.le_of_succ_le_succ hskip)
    | zero =>
      rw [List.cons_append, parseFrom, parseFrom, ih 0 (Nat.zero_le _), setInside?_append h]
      split_ifs
      · rfl
      · rfl
      · cases hinside : setInside? pattern with
        | none => rfl
        | some inside => exact congrArg (setItem inside :: ·) (ih _ (length_setInside? hinside))
      · rfl

end Glob

variable {text word : List Char}

open Glob

/-- A plain text matches itself alone. -/
theorem globMatch_plain_iff (hword : Plain word) : globMatch text word = true ↔ text = word := by
  rw [globMatch, parse_plain hword, ← List.append_nil (word.map GlobItem.char), accepts_plain]
  simp [accepts]

/-- A plain text with a star behind it matches what begins with the text. -/
theorem globMatch_plain_star_iff (hword : Plain word) : globMatch text (word ++ ['*']) = true ↔
    word <+: text := by
  rw [globMatch, parse, parseFrom_plain_append hword, accepts_plain]
  constructor
  · rintro ⟨rest, rfl, -⟩
    exact List.prefix_append word rest
  · rintro ⟨rest, rfl⟩
    exact ⟨rest, rfl, accepts_anyText.2 ⟨[], List.nil_suffix, rfl⟩⟩

/-- A plain text with a star before it matches what ends in the text. -/
theorem globMatch_star_plain_iff (hword : Plain word) : globMatch text ('*' :: word) = true ↔
    word <:+ text := by
  have hparse : parse ('*' :: word) = .anyText :: parse word := rfl
  rw [globMatch, hparse, accepts_anyText]
  constructor
  · rintro ⟨rest, hrest, hmatch⟩
    exact (globMatch_plain_iff hword).1 hmatch ▸ hrest
  · exact fun h => ⟨word, h, (globMatch_plain_iff hword).2 rfl⟩

/-- Two globs, one behind the other, match the texts that are put together from texts that they
match, if the second one closes no bracket. -/
theorem globMatch_append_iff {pattern later : List Char} (h : ']' ∉ later) :
    globMatch text (pattern ++ later) = true ↔
      ∃ before after, text = before ++ after ∧ globMatch before pattern = true ∧
        globMatch after later = true := by
  rw [globMatch, parse, parseFrom_append h 0 (Nat.zero_le _), accepts_append]
  rfl

end BranchCover
