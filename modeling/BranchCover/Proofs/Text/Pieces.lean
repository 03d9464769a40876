import BranchCover.Proofs.Text.Lines

/-!
# Texts taken apart at a mark

* `intercalate_splitAtChars`: the pieces with the mark between them are the text.
* `append_mark_prefix_iff`: a text that goes on behind another with the mark has more pieces behind
  its own.
-/

namespace BranchCover.Text

variable {text rest : List Char} {mark : Char}

theorem splitAtChars_ne_nil (p : Char → Bool) (text : List Char) : splitAtChars p text ≠ [] := by
  rw [← List.length_pos_iff, splitAtChars, length_splitFrom]
  exact Nat.succ_pos _

theorem splitAtChars_append_cons (text rest : List Char) (mark : Char) :
    splitAtChars (· == mark) (text ++ mark :: rest) =
      splitAtChars (· == mark) text ++ splitAtChars (· == mark) rest :=
  splitFrom_eq_append [] rest (beq_self_eq_true mark)

/-- The pieces of a text with the mark between them are the text. -/
theorem intercalate_splitAtChars (text : List Char) :
    [mark].intercalate (splitAtChars (· == mark) text) = text := by
  have hfrom : ∀ piece, [mark].intercalate (splitFrom (· == mark) piece text) =
      piece.reverse ++ text := by
    induction text with
    | nil => simp [splitFrom]
    | cons c rest ih =>
      intro piece
      rw [splitFrom]
      split_ifs with hc
      · obtain rfl : c = mark := by simpa using hc
        obtain ⟨first, others, hsplit⟩ :=
          List.exists_cons_of_ne_nil (splitAtChars_ne_nil (· == c) rest)
        have hrest := ih []
        rw [splitAtChars] at hsplit
        rw [hsplit] at hrest ⊢
        rw [List.intercalate_cons_cons, hrest]
        simp
      · rw [ih]
        simp
  exact hfrom []

theorem intercalate_append {texts others : List (List Char)} (htexts : texts ≠ [])
    (hothers : others ≠ []) :
    [mark].intercalate (texts ++ others) =
      [mark].intercalate texts ++ mark :: [mark].intercalate others := by
  obtain ⟨next, others, rfl⟩ := List.exists_cons_of_ne_nil hothers
  induction texts with
  | nil => exact absurd rfl htexts
  | cons text rest ih =>
    cases rest with
    | nil => simp [List.intercalate_cons_cons]
    | cons second rest =>
      rw [List.cons_append, List.cons_append, List.intercalate_cons_cons, ← List.cons_append,
        ih (List.cons_ne_nil _ _), List.intercalate_cons_cons]
      simp

/-- A text goes on behind another with a mark exactly if its pieces go on behind those of the
other. -/
theorem append_mark_prefix_iff : text ++ [mark] <+: rest ↔
    ∃ more, more ≠ [] ∧ splitAtChars (· == mark) rest = splitAtChars (· == mark) text ++ more := by
  constructor
  · rintro ⟨after, rfl⟩
    refine ⟨splitAtChars (· == mark) after, splitAtChars_ne_nil _ _, ?_⟩
    rw [List.append_assoc, List.singleton_append, splitAtChars_append_cons]
  · rintro ⟨more, hmore, hsplit⟩
    refine ⟨[mark].intercalate more, ?_⟩
    have hrest : [mark].intercalate (splitAtChars (· == mark) rest) = rest :=
      intercalate_splitAtChars rest
    rw [hsplit, intercalate_append (splitAtChars_ne_nil _ _) hmore,
      intercalate_splitAtChars] at hrest
    rw [← hrest, List.append_assoc, List.singleton_append]

end BranchCover.Text
