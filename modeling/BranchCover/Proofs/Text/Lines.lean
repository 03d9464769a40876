import BranchCover.Proofs.Text.Trim
import BranchCover.Text.Lines
import BranchCover.Text.Utf8
import Mathlib.Data.List.Basic

/-!
# Line feeds

A line feed is one byte, and no other character has that byte among its own. So the lines of a text
can be counted in its bytes.

* `Text.length_lines`: a text has one line more than it has line feeds.
* `Text.lines_intercalate`: the lines of texts that are written below each other.
* `Utf8.count_newline_encode`: the line feeds of a text and of its bytes.
-/

namespace BranchCover

namespace Text

theorem length_splitFrom (p : Char → Bool) (piece text : List Char) :
    (splitFrom p piece text).length = text.countP p + 1 := by
  induction text generalizing piece with
  | nil => rfl
  | cons c rest ih =>
    rw [splitFrom]
    by_cases hc : p c
    · rw [if_pos hc, List.length_cons, ih, List.countP_cons_of_pos hc]
    · rw [if_neg hc, ih, List.countP_cons_of_neg hc]

/-- A text has one line more than it has line feeds. -/
theorem length_lines (text : List Char) : (lines text).length = text.count '\n' + 1 :=
  length_splitFrom _ [] text

theorem splitFrom_eq_append {p : Char → Bool} {text : List Char} {c : Char} (piece rest : List Char)
    (hc : p c = true) :
    splitFrom p piece (text ++ c :: rest) = splitFrom p piece text ++ splitFrom p [] rest := by
  induction text generalizing piece with
  | nil => simp [splitFrom, hc]
  | cons d text ih =>
    rw [List.cons_append, splitFrom, splitFrom, ih, ih]
    split_ifs <;> rfl

theorem beq_eq_false_of_notMem {c : Char} {text : List Char} (h : c ∉ text) :
    ∀ d ∈ text, (d == c) = false := by
  intro d hd
  rw [beq_eq_false_iff_ne]
  rintro rfl
  exact h hd

theorem lines_eq_singleton {text : List Char} (h : '\n' ∉ text) : lines text = [text] :=
  splitAtChars_eq_singleton (beq_eq_false_of_notMem h)

/-- The pieces of texts with a character of the class between them are the pieces of the texts. -/
theorem splitAtChars_intercalate {p : Char → Bool} {c : Char} (hc : p c = true)
    {texts : List (List Char)}
    (h : texts ≠ []) : splitAtChars p ([c].intercalate texts) = texts.flatMap (splitAtChars p) := by
  induction texts with
  | nil => exact absurd rfl h
  | cons text rest ih =>
    cases rest with
    | nil => simp
    | cons next rest =>
      rw [List.intercalate_cons_cons, List.append_assoc, List.singleton_append, splitAtChars,
        splitFrom_eq_append _ _ hc, List.flatMap_cons, ← ih (List.cons_ne_nil _ _)]
      rfl

/-- The lines of texts that are written below each other are the lines of the texts. -/
theorem lines_intercalate {texts : List (List Char)} (h : texts ≠ []) :
    lines (['\n'].intercalate texts) = texts.flatMap lines :=
  splitAtChars_intercalate rfl h

theorem notMem_of_mem_splitFrom {p : Char → Bool} {piece text line : List Char} {c : Char}
    (hc : p c = true)
    (hpiece : c ∉ piece) (h : line ∈ splitFrom p piece text) : c ∉ line := by
  induction text generalizing piece with
  | nil =>
    obtain rfl := List.mem_singleton.1 h
    simpa using hpiece
  | cons d text ih =>
    rw [splitFrom] at h
    split_ifs at h with hd
    · rcases List.mem_cons.1 h with rfl | h
      · simpa using hpiece
      · exact ih (by simp) h
    · refine ih ?_ h
      rw [List.mem_cons, not_or]
      exact ⟨fun heq => hd (heq ▸ hc), hpiece⟩

theorem newline_notMem_of_mem_lines {text line : List Char} (h : line ∈ lines text) : '\n' ∉ line :=
  notMem_of_mem_splitFrom rfl (by simp) h

end Text

namespace Utf8

/-- The bytes of a character beyond ASCII are beyond ASCII. -/
theorem le_of_mem_utf8EncodeChar {c : Char} {b : UInt8} (hc : 127 < c.val.toNat)
    (hb : b ∈ String.utf8EncodeChar c) : 128 ≤ b.toNat := by
  unfold String.utf8EncodeChar at hb
  simp only [if_neg (Nat.not_le.2 hc)] at hb
  split_ifs at hb
  all_goals
    simp only [List.mem_cons, List.not_mem_nil, or_false] at hb
    rcases hb with rfl | rfl | rfl | rfl <;> rw [UInt8.toNat_ofNat'] <;> omega

theorem count_newline_utf8EncodeChar (c : Char) :
    (String.utf8EncodeChar c).count 10 = if c = '\n' then 1 else 0 := by
  by_cases hc : c.val.toNat ≤ 127
  · have hnewline : UInt8.ofNat c.val.toNat = 10 ↔ c = '\n' := by
      rw [← UInt8.toNat_inj, UInt8.toNat_ofNat', ← Char.toNat_inj]
      show c.val.toNat % 256 = 10 ↔ c.val.toNat = 10
      omega
    simp only [String.utf8EncodeChar, if_pos hc, List.count_singleton, beq_iff_eq, hnewline]
  · have hne : c ≠ '\n' := by
      rintro rfl
      exact hc (by decide)
    rw [if_neg hne]
    refine List.count_eq_zero_of_not_mem fun hmem => ?_
    have hle := le_of_mem_utf8EncodeChar (Nat.not_le.1 hc) hmem
    exact absurd hle (by decide)

/-- A text has as many line feeds as its bytes. -/
theorem count_newline_encode (text : List Char) : (encode text).count 10 = text.count '\n' := by
  induction text with
  | nil => rfl
  | cons c rest ih =>
    rw [encode, List.flatMap_cons, List.count_append, count_newline_utf8EncodeChar, List.count_cons,
      Nat.add_comm]
    simp only [beq_iff_eq]
    exact congrArg (· + _) ih

end Utf8

end BranchCover
