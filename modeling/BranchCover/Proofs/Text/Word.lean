import BranchCover.Proofs.Text.Trim
import BranchCover.Text.Digit
import BranchCover.Text.Word

/-!
# Words and identifiers

* `isWord_of_isBlank`, `plain_of_isIdentifierStart`: words, blanks and digits.
* `identifier?_eq_some_iff`: the identifier at the head of a text ends where no word character
  stands.
-/

namespace BranchCover.Text

variable {text word rest : List Char} {c : Char}

/-! ### Blanks, digits and words -/

/-- What holds of the 128 ASCII characters holds of every character with an ASCII code. -/
theorem forall_ascii {P : Char → Prop} (h : ∀ n < 128, P (Char.ofNat n)) (hc : c.toNat < 128) :
    P c := by
  simpa only [Char.ofNat_toNat] using h c.toNat hc

/-- No blank is a word character. -/
theorem isWord_of_isBlank {c : Char} (h : isBlank c = true) : isWord c = false := by
  unfold isBlank at h
  unfold isWord
  by_cases hascii : c.toNat < 128
  · rw [if_pos hascii] at h ⊢
    revert h
    exact forall_ascii (P := fun c =>
      ((9 ≤ c.toNat && c.toNat ≤ 13) || (28 ≤ c.toNat && c.toNat ≤ 32)) = true →
      (c.isAlphanum || c == '_') = false) (by decide) hascii
  · rw [if_neg hascii] at h ⊢
    obtain ⟨range, hrange, hin⟩ := List.any_eq_true.1 h
    -- no range of blanks meets a range of word characters
    have hapart : ∀ blanks ∈ blankRanges, ∀ words ∈ wordRanges, blanks.2 < words.1 ∨
        words.2 < blanks.1 := by
      decide +kernel
    refine List.any_eq_false.2 fun words hwords => ?_
    have := hapart range hrange words hwords
    simp only [Bool.and_eq_true, decide_eq_true_iff] at hin ⊢
    omega

/-- The start of an identifier is an ASCII character, and neither a blank nor a digit. -/
theorem plain_of_isIdentifierStart {c : Char} (h : isIdentifierStart c = true) :
    isBlank c = false ∧ isDecimal c = false ∧ isWord c = true := by
  have hascii : c.toNat < 128 := by
    rcases Bool.or_eq_true_iff.1 h with hletter | hunderscore
    · rcases Bool.or_eq_true_iff.1 hletter with hupper | hlower
      · have hle : c.val ≤ 'Z'.val := (of_decide_eq_true hupper).2
        exact lt_of_le_of_lt (UInt32.le_iff_toNat_le.1 hle) (by decide)
      · have hle : c.val ≤ 'z'.val := of_decide_eq_true (Bool.and_eq_true_iff.1 hlower).2
        exact lt_of_le_of_lt (UInt32.le_iff_toNat_le.1 hle) (by decide)
    · obtain rfl : c = '_' := by simpa using hunderscore
      decide
  exact forall_ascii (P := fun c => isIdentifierStart c = true →
    isBlank c = false ∧ isDecimal c = false ∧ isWord c = true) (by decide) hascii h

/-! ### Identifiers -/

theorem isIdentifier_cons :
    isIdentifier (c :: rest) = true ↔ isIdentifierStart c = true ∧ ∀ d ∈ rest, isWord d = true := by
  rw [← List.dropWhile_eq_nil_iff]
  by_cases hc : isIdentifierStart c = true
  · rw [isIdentifier, identifier?, if_pos hc]
    cases rest.dropWhile isWord <;> simp [hc]
  · simp [isIdentifier, identifier?, hc]

theorem ne_nil_of_isIdentifier (h : isIdentifier text = true) : text ≠ [] := by
  rintro rfl
  cases h

theorem isWord_of_mem (h : isIdentifier text = true) : ∀ d ∈ text, isWord d = true := by
  obtain ⟨c, rest, rfl⟩ := List.exists_cons_of_ne_nil (ne_nil_of_isIdentifier h)
  obtain ⟨hstart, hwords⟩ := isIdentifier_cons.1 h
  exact List.forall_mem_cons.2 ⟨(plain_of_isIdentifierStart hstart).2.2, hwords⟩

/-- The identifier at the head of a text ends where no word character stands. -/
theorem identifier?_append (hword : isIdentifier word = true)
    (hrest : ∀ c, rest.head? = some c → isWord c = false) :
      identifier? (word ++ rest) = some (word, rest) := by
  obtain ⟨c, word, rfl⟩ := List.exists_cons_of_ne_nil (ne_nil_of_isIdentifier hword)
  obtain ⟨hstart, hwords⟩ := isIdentifier_cons.1 hword
  rw [List.cons_append, identifier?, if_pos hstart, takeWhile_append_eq hwords hrest,
    dropWhile_append_eq hwords hrest]

theorem identifier?_eq_some_iff : identifier? text = some (word, rest) ↔
    isIdentifier word = true ∧ text = word ++ rest ∧ ∀ c, rest.head? = some c →
      isWord c = false := by
  constructor
  · intro h
    cases text with
    | nil => cases h
    | cons c text =>
      rw [identifier?] at h
      split_ifs at h with hstart
      obtain ⟨rfl, rfl⟩ := Prod.mk.inj (Option.some.inj h)
      refine ⟨isIdentifier_cons.2 ⟨hstart, fun d => List.mem_takeWhile_imp⟩, ?_, fun d hd => ?_⟩
      · rw [List.cons_append, List.takeWhile_append_dropWhile]
      · have hnot := List.head?_dropWhile_not isWord text
        rw [hd] at hnot
        simpa using hnot
  · rintro ⟨hword, rfl, hrest⟩
    exact identifier?_append hword hrest

end BranchCover.Text
