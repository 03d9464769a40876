import BranchCover.Proofs.Except
import BranchCover.Proofs.Plan.Draws
import BranchCover.Proofs.Text.Trim

/-!
# The `else` value of a character

The `else` value of a character is a lower-case letter. Cases are compared with it as texts, so a
literal takes its letter and a range takes none.

* `LetterCase`: the cases of a subject that is a character.
* `taken_literal_iff`: the letters that the texts of the cases take.
* `exists_choose_lowerLetter`: each letter is drawn by some generator.
* `exists_letter_elseSymbol`: what the search for a letter finds.
* `elseValue_letters`: the `else` value, whatever is drawn.
-/

namespace BranchCover.WhenPlan

open Twister

/-- A case of a subject that is a character. -/
inductive LetterCase where
  | literal (c : Char)
  /-- A range of characters, both ends included. -/
  | range (first last : Char)
  deriving DecidableEq

/-- The literal of a character that is not escaped. -/
def charLiteral (c : Char) : List Char := ['\'', c, '\'']

/-- How a case is written: `'c'` or `in 'a'..'b'`. -/
def LetterCase.text : LetterCase → String
  | literal c => String.ofList (charLiteral c)
  | range first last => String.ofList
      ('i' :: 'n' :: ' ' :: (charLiteral first ++ '.' :: '.' :: charLiteral last))

/-- A character is the one of a literal, or lies in a range. -/
def LetterCase.Covers : LetterCase → Char → Prop
  | literal c, d => d = c
  | range first last, d => first ≤ d ∧ d ≤ last

variable {cases : List LetterCase}

/-- A text that ends in a quote and starts with no blank is trimmed. -/
theorem trimmed_quoted {c : Char} (hc : Text.isBlank c = false) (middle : List Char) :
    trimmed (String.ofList (c :: (middle ++ ['\'']))) =
      String.ofList (c :: (middle ++ ['\''])) := by
  rw [trimmed, String.toList_ofList, Text.trim_between hc (by decide)]

theorem trimmed_text (case : LetterCase) : trimmed case.text = case.text := by
  cases case with
  | literal c => exact trimmed_quoted (by decide) [c]
  | range first last =>
    exact trimmed_quoted (by decide) ['n', ' ', '\'', first, '\'', '.', '.', '\'', last]

/-- Among the texts of the cases a letter is taken exactly if it is a literal. -/
theorem taken_literal_iff (c : Char) :
    String.ofList (charLiteral c) ∈ cases.map LetterCase.text ↔ .literal c ∈ cases := by
  rw [List.mem_map]
  constructor
  · rintro ⟨case, hcase, htext⟩
    cases case with
    | literal d =>
      have hchars : charLiteral d = charLiteral c := String.ofList_injective htext
      obtain rfl : d = c := by simpa [charLiteral] using hchars
      exact hcase
    | range first last =>
      -- a range starts with a letter and a literal with its quote
      have hchars : 'i' :: 'n' :: ' ' :: (charLiteral first ++ '.' :: '.' :: charLiteral last) =
          charLiteral c :=
        String.ofList_injective htext
      exact absurd (List.cons.inj hchars).1 (by decide)
  · intro hcase
    exact ⟨_, hcase, rfl⟩

/-- Each lower-case letter is drawn by some generator. -/
theorem exists_choose_lowerLetter {c : Char} (hc : c ∈ lowerLetters) :
    ∃ rng, (choose 'a' lowerLetters rng).1 = c := by
  have hwords : lowerLetters.all (fun c => (List.range 32).any fun k =>
      (choose 'a' lowerLetters { words := #[UInt32.ofNat (k * 2 ^ 24)], used := 0 }).1 == c) =
        true := by
    decide +kernel
  obtain ⟨k, -, hk⟩ := List.any_eq_true.1 (List.all_eq_true.1 hwords c hc)
  exact ⟨_, beq_iff_eq.1 hk⟩

theorem le_of_mem_lowerLetters {c : Char} (hc : c ∈ lowerLetters) : 'a' ≤ c ∧ c ≤ 'z' := by
  have hletters : lowerLetters.all (fun c => 'a' ≤ c && c ≤ 'z') = true := by decide
  simpa using List.all_eq_true.1 hletters c hc

/-- The letters drawn one after another are those of the literals drawn one after another. -/
theorem draws_elseLetter (count : ℕ) (rng : Twister) :
    draws elseLetter count rng =
      (draws (choose 'a' lowerLetters) count rng).map fun c => String.ofList (charLiteral c) := by
  induction count generalizing rng with
  | zero => rfl
  | succ count ih =>
    rw [draws, draws, List.map_cons, ← ih]
    rfl

theorem elseValue_char {type : String} (htype : TypeText.base type = "Char") (limit : ℕ) :
    elseValue (cases.map LetterCase.text) type limit =
      .ok (elseSymbol (cases.map LetterCase.text) "Char" limit) := by
  have htrimmed : (cases.map LetterCase.text).map trimmed = cases.map LetterCase.text := by
    rw [List.map_map]
    exact List.map_congr_left fun case _ => trimmed_text case
  unfold elseValue
  rw [htype, htrimmed]
  rfl

theorem elseSymbol_char (taken : List String) (limit : ℕ) (rng : Twister) :
    (elseSymbol taken "Char" limit rng).1 =
      (some (drawUntaken elseLetter (fun text => taken.contains text) limit "'a'" rng).1.1,
        (drawUntaken elseLetter (fun text => taken.contains text) limit "'a'" rng).1.2) := rfl

theorem contains_text_iff (c : Char) :
    (cases.map LetterCase.text).contains (String.ofList (charLiteral c)) = true ↔
    .literal c ∈ cases := by
  rw [← taken_literal_iff]
  exact List.contains_iff_mem

/-- The value is the literal of a drawn letter, and no literal of the cases unless all draws are. -/
theorem exists_letter_elseSymbol {limit : ℕ} (hlimit : 1 ≤ limit) (rng : Twister) :
    ∃ c ∈ draws (choose 'a' lowerLetters) limit rng,
      (elseSymbol (cases.map LetterCase.text) "Char" limit rng).1.1 =
        some (String.ofList (charLiteral c)) ∧
      c ∈ lowerLetters ∧
      ((elseSymbol (cases.map LetterCase.text) "Char" limit rng).1.2 = false → .literal c ∉ cases) ∧
      ((elseSymbol (cases.map LetterCase.text) "Char" limit rng).1.2 = true ↔
        ∀ d ∈ draws (choose 'a' lowerLetters) limit rng, .literal d ∈ cases) := by
  rw [elseSymbol_char]
  obtain ⟨c, hc, htext⟩ := List.mem_map.1
    (draws_elseLetter limit rng ▸ mem_draws_drawUntaken hlimit :
    (drawUntaken elseLetter (fun text =>
      (cases.map LetterCase.text).contains text) limit "'a'" rng).1.1 ∈
      (draws (choose 'a' lowerLetters) limit rng).map fun c => String.ofList (charLiteral c))
  refine ⟨c, hc, congrArg some htext.symm,
    forall_mem_draws (choose_mem (by decide)) limit rng c hc, ?_, ?_⟩
  · intro hfound hliteral
    have huntaken := taken_drawUntaken hfound
    rw [← htext, (contains_text_iff c).2 hliteral] at huntaken
    cases huntaken
  · rw [exhausted_drawUntaken_iff, draws_elseLetter, List.forall_mem_map]
    exact forall₂_congr fun d _ => contains_text_iff d

/-- Each lower-case letter that is no literal is the value for some generator. -/
theorem exists_elseSymbol_eq {limit : ℕ} (hlimit : 1 ≤ limit) {c : Char} (hc : c ∈ lowerLetters)
    (hfree : .literal c ∉ cases) :
    ∃ rng, (elseSymbol (cases.map LetterCase.text) "Char" limit rng).1 =
      (some (String.ofList (charLiteral c)), false) := by
  obtain ⟨rng, hrng⟩ := exists_choose_lowerLetter hc
  obtain ⟨left, rfl⟩ := Nat.exists_eq_add_of_le' hlimit
  have hletter : (elseLetter rng).1 = String.ofList (charLiteral c) := by
    rw [← hrng]
    rfl
  refine ⟨rng, ?_⟩
  rw [elseSymbol_char, drawUntaken_succ, hletter, if_neg (by rwa [contains_text_iff])]

/-- **The `else` value of a character is a letter that is none of the literals, unless every draw is
one.** Ranges are passed over, so it avoids every case, whatever is drawn, exactly if each
lower-case letter of a range is also a literal. -/
theorem elseValue_letters {type : String} {limit : ℕ} (htype : TypeText.base type = "Char")
    (hlimit : 1 ≤ limit) :
    ∃ draw, elseValue (cases.map LetterCase.text) type limit = .ok draw ∧
      (∀ rng, ∃ c ∈ draws (choose 'a' lowerLetters) limit rng,
        (draw rng).1.1 = some (String.ofList (charLiteral c)) ∧ c ∈ lowerLetters ∧
        ((draw rng).1.2 = false → .literal c ∉ cases) ∧
        ((draw rng).1.2 = true ↔ ∀ d ∈ draws (choose 'a' lowerLetters) limit rng,
          .literal d ∈ cases)) ∧
      ((∀ rng c, (draw rng).1 = (some (String.ofList (charLiteral c)), false) → ∀ case ∈ cases,
        ¬case.Covers c) ↔
        ∀ c ∈ lowerLetters, (∃ case ∈ cases, case.Covers c) → .literal c ∈ cases) := by
  refine ⟨_, elseValue_char htype limit, exists_letter_elseSymbol hlimit, ?_⟩
  constructor
  · intro havoids c hc hcovered
    by_contra hfree
    obtain ⟨rng, hrng⟩ := exists_elseSymbol_eq hlimit hc hfree
    obtain ⟨case, hcase, hcovers⟩ := hcovered
    exact havoids rng c hrng case hcase hcovers
  · intro hliterals rng c hfound case hcase hcovers
    obtain ⟨d, -, htext, hlower, huncovered, -⟩ := @exists_letter_elseSymbol cases limit hlimit rng
    rw [hfound] at htext huncovered
    have hchars : charLiteral c = charLiteral d := String.ofList_injective (Option.some.inj htext)
    obtain rfl : c = d := by simpa [charLiteral] using hchars
    exact huncovered rfl (hliterals c hlower ⟨case, hcase, hcovers⟩)

/-- A range of digits leaves the letters free, so a literal is all that has to be avoided. -/
theorem elseValue_letters_digits :
    ∃ draw, elseValue ["'x'", "in '0'..'9'"] "Char" 1000 = .ok draw ∧
      ∀ rng c, (draw rng).1 = (some (String.ofList (charLiteral c)), false) → c ≠ 'x' ∧
        ¬('0' ≤ c ∧ c ≤ '9') := by
  obtain ⟨draw, hdraw, -, havoids⟩ :=
    @elseValue_letters [.literal 'x', .range '0' '9'] "Char" 1000 (by decide) (by decide)
  have hliterals : ∀ c ∈ lowerLetters,
    (∃ case ∈ [LetterCase.literal 'x', .range '0' '9'], case.Covers c) →
      .literal c ∈ [LetterCase.literal 'x', .range '0' '9'] := by
    intro c hc hcovered
    simp only [List.mem_cons, List.not_mem_nil, or_false, exists_eq_or_imp, exists_eq_left,
      LetterCase.Covers] at hcovered
    rcases hcovered with rfl | hdigit
    · exact List.mem_cons_self
    · have hle : 'a' ≤ '9' := Char.le_trans (le_of_mem_lowerLetters hc).1 hdigit.2
      exact absurd hle (by decide)
  refine ⟨draw, hdraw, fun rng c hfound => ?_⟩
  have hall := havoids.2 hliterals rng c hfound
  exact ⟨hall (.literal 'x') (by simp), hall (.range '0' '9') (by simp)⟩

/-- Whatever is drawn, the value is a letter of the only range. -/
theorem elseValue_letterRange :
    ∃ draw, elseValue ["in 'a'..'z'"] "Char" 1 = .ok draw ∧
      ∀ rng, ∃ c, (draw rng).1 = (some (String.ofList (charLiteral c)), false) ∧
        (LetterCase.range 'a' 'z').text = "in 'a'..'z'" ∧ (LetterCase.range 'a' 'z').Covers c := by
  refine ⟨_, @elseValue_char [.range 'a' 'z'] "Char" (by decide) 1, fun rng => ?_⟩
  obtain ⟨c, hc, htext, hlower, -, hexhausted⟩ :=
    @exists_letter_elseSymbol [.range 'a' 'z'] 1 (by decide) rng
  have hfound : (elseSymbol ([LetterCase.range 'a' 'z'].map LetterCase.text) "Char" 1 rng).1.2 =
      false := by
    refine Bool.eq_false_iff.2 fun hall => ?_
    have hliteral := hexhausted.1 hall c hc
    simp at hliteral
  exact ⟨c, Prod.ext htext hfound, by decide, le_of_mem_lowerLetters hlower⟩

end BranchCover.WhenPlan
