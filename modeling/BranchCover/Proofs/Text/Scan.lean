import BranchCover.Text.Scan
import Mathlib.Data.List.Infix
import Mathlib.Tactic.SplitIfs

/-!
# Beginnings and ends of texts

* `dropHead?_eq_some_iff`: what follows a given beginning.
* `startsWith_iff`, `endsWith_iff`: the tests are those for prefixes and suffixes.
* `contains_iff`: the test for an occurrence; the ends of a text without a character of the pattern
  can be dropped.
* `splitFirst?_append`, `splitLast?_append`, `afterLast_eq_iff`: a text taken apart at the first or
  the last occurrence of a character.
* `innerText_cons_concat`: a text between two characters.
-/

namespace BranchCover.Text

variable {pattern text rest before after : List Char} {mark : Char}

theorem dropHead?_eq_some_iff : dropHead? pattern text = some rest ↔ text = pattern ++ rest := by
  induction pattern generalizing text with
  | nil =>
    rw [dropHead?, Option.some.injEq, List.nil_append]
  | cons p pattern ih =>
    cases text with
    | nil => simp [dropHead?]
    | cons c text =>
      rw [dropHead?, List.cons_append, List.cons.injEq, ← ih]
      by_cases hc : p = c
      · simp [hc]
      · simp [hc, Ne.symm hc]

theorem startsWith_iff : startsWith text pattern = true ↔ pattern <+: text := by
  rw [startsWith, Option.isSome_iff_exists]
  simp only [dropHead?_eq_some_iff, eq_comm (a := text)]
  rfl

theorem endsWith_iff : endsWith text pattern = true ↔ pattern <:+ text := by
  rw [endsWith, startsWith_iff, List.reverse_prefix]

theorem contains_iff : contains pattern text = true ↔ pattern <:+: text := by
  induction text with
  | nil => simp [contains]
  | cons c rest ih => rw [contains, Bool.or_eq_true, startsWith_iff, ih, List.infix_cons_iff]

/-- A text in which the first character of a pattern does not occur can be dropped from the
start. -/
theorem infix_append_of_notMem {front : List Char} (h : mark ∉ front) :
    mark :: pattern <:+: front ++ text ↔ mark :: pattern <:+: text := by
  induction front with
  | nil => rfl
  | cons c front ih =>
    rw [List.mem_cons, not_or] at h
    rw [List.cons_append, List.infix_cons_iff, ih h.2, or_iff_right]
    rw [List.cons_prefix_cons]
    exact fun hprefix => h.1 hprefix.1

/-- A text in which the last character of a pattern does not occur can be dropped from the end. -/
theorem infix_append_of_notMem_right {back : List Char} (h : mark ∉ back) :
    pattern ++ [mark] <:+: text ++ back ↔ pattern ++ [mark] <:+: text := by
  calc pattern ++ [mark] <:+: text ++ back
      ↔ mark :: pattern.reverse <:+: back.reverse ++ text.reverse := by
        rw [← List.reverse_infix]; simp
    _ ↔ mark :: pattern.reverse <:+: text.reverse := infix_append_of_notMem (by simpa using h)
    _ ↔ pattern ++ [mark] <:+: text := by rw [← List.reverse_infix]; simp

theorem splitFirst?_of_not_mem (h : mark ∉ text) : splitFirst? mark text = none := by
  induction text with
  | nil => rfl
  | cons c rest ih =>
    rw [List.mem_cons, not_or] at h
    rw [splitFirst?, if_neg (Ne.symm h.1), ih h.2]
    rfl

theorem splitFirst?_append (h : mark ∉ before) :
    splitFirst? mark (before ++ mark :: after) = some (before, after) := by
  induction before with
  | nil => simp [splitFirst?]
  | cons c rest ih =>
    rw [List.mem_cons, not_or] at h
    rw [List.cons_append, splitFirst?, if_neg (Ne.symm h.1), ih h.2]
    rfl

theorem splitFirst?_eq_some (h : splitFirst? mark text = some (before, after)) :
    text = before ++ mark :: after := by
  induction text generalizing before with
  | nil => cases h
  | cons c rest ih =>
    rw [splitFirst?] at h
    split_ifs at h with hc
    · obtain ⟨rfl, rfl⟩ := Prod.mk.inj (Option.some.inj h)
      rw [hc, List.nil_append]
    · obtain ⟨⟨front, behind⟩, hrest, hparts⟩ := Option.map_eq_some_iff.1 h
      obtain ⟨rfl, rfl⟩ := Prod.mk.inj hparts
      rw [ih hrest, List.cons_append]

theorem splitLast?_eq_none (h : mark ∉ after) : splitLast? mark after = none := by
  induction after with
  | nil => rfl
  | cons c after ih =>
    obtain ⟨hc, hafter⟩ := not_or.1 (mt List.mem_cons.2 h)
    rw [splitLast?, ih hafter]
    exact if_neg (Ne.symm hc)

theorem splitLast?_append (h : mark ∉ after) :
    splitLast? mark (before ++ mark :: after) = some (before, after) := by
  induction before with
  | nil =>
    rw [List.nil_append, splitLast?, splitLast?_eq_none h]
    exact if_pos rfl
  | cons c before ih => rw [List.cons_append, splitLast?, ih]

theorem splitLast?_eq_some (h : splitLast? mark text = some (before, after)) :
    text = before ++ mark :: after := by
  induction text generalizing before with
  | nil => cases h
  | cons c rest ih =>
    rw [splitLast?] at h
    split at h
    · rename_i front behind hrest
      obtain ⟨rfl, rfl⟩ := Prod.mk.inj (Option.some.inj h)
      rw [ih hrest, List.cons_append]
    · split_ifs at h with hc
      obtain ⟨rfl, rfl⟩ := Prod.mk.inj (Option.some.inj h)
      rw [hc, List.nil_append]

/-- What stands behind the last occurrence of a character does not have it. -/
theorem afterLast_eq_iff : afterLast mark text = after ↔
    mark ∉ after ∧ (text = after ∨ ∃ before, text = before ++ mark :: after) := by
  constructor
  · rintro rfl
    by_cases hmark : mark ∈ text
    · -- the last occurrence is the first one of the text reversed
      obtain ⟨behind, before, htext, hbehind⟩ :=
        List.eq_append_cons_of_mem (List.mem_reverse.2 hmark)
      have hsplit : text = before.reverse ++ mark :: behind.reverse := by
        rw [← List.reverse_reverse text, htext]
        simp
      have hafter : mark ∉ behind.reverse := by simpa using hbehind
      have hlast : afterLast mark text = behind.reverse := by
        rw [hsplit, afterLast, splitLast?_append hafter]
      rw [hlast]
      exact ⟨hafter, Or.inr ⟨_, hsplit⟩⟩
    · have hlast : afterLast mark text = text := by rw [afterLast, splitLast?_eq_none hmark]
      rw [hlast]
      exact ⟨hmark, Or.inl rfl⟩
  · rintro ⟨hafter, rfl | ⟨before, rfl⟩⟩
    · rw [afterLast, splitLast?_eq_none hafter]
    · rw [afterLast, splitLast?_append hafter]

theorem length_afterLast_le (mark : Char) (text : List Char) :
    (afterLast mark text).length ≤ text.length := by
  obtain ⟨-, htext⟩ := afterLast_eq_iff.1 (rfl : afterLast mark text = _)
  rcases htext with htext | ⟨before, htext⟩
  · exact (congrArg List.length htext).ge
  · have hlength := congrArg List.length htext
    rw [List.length_append, List.length_cons] at hlength
    omega

@[simp] theorem innerText_cons_concat (first last : Char) (inner : List Char) :
    innerText (first :: (inner ++ [last])) = inner := by
  rw [innerText, List.tail_cons, List.dropLast_concat]

theorem length_innerText (text : List Char) : (innerText text).length = text.length - 2 := by
  rw [innerText, List.length_dropLast, List.length_tail, Nat.sub_sub]

end BranchCover.Text
