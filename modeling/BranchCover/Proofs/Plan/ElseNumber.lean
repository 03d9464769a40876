import BranchCover.Proofs.Plan.Draws
import BranchCover.Proofs.Plan.NumericCase

/-!
# The `else` value of an integral subject

The `else` value of an integral subject is drawn from the integers from -100 on and below 100.
Unless every draw is covered by a case, it is covered by none.

* `denotes_formatInt`: the value is a literal of the integer that is drawn.
* `elseValue_integral`: the `else` value, whatever is drawn.
-/

namespace BranchCover.WhenPlan

open Twister

/-- The text of an integer as a value of an integral type denotes it. -/
theorem denotes_formatInt {type : String}
    (htype : type ∈ TypeText.integerNames ++ TypeText.longNames) (n : Int) :
    Number.Denotes (formatInt n type) n := by
  unfold formatInt
  by_cases hlong : type ∈ TypeText.longNames
  · rw [if_pos hlong]
    exact Number.denotes_intText n (some 'L') (by simp)
  · have hplain : type ≠ "Float" ∧ type ≠ "Double" := by
      constructor <;> rintro rfl <;> exact absurd htype (by decide)
    rw [if_neg hlong, if_neg hplain.1, if_neg hplain.2]
    exact Number.denotes_plain n

theorem elseValue_numeric {used : List String} {type : String} {limit : ℕ}
    (htype : TypeText.base type ∈ TypeText.numericNames) :
    elseValue used type limit = (numericCases used).map fun cases =>
      elseNumber cases (TypeText.base type) limit := by
  simp only [elseValue, htype, if_true]

/-- **The `else` value of an integral subject is covered by no case, unless every draw is covered by
one.** It can be drawn exactly if the integers of the cases have no more digits than are read. -/
theorem elseValue_integral {used : List String} {type : String} {limit : ℕ}
    (htype : TypeText.base type ∈ TypeText.integerNames ++ TypeText.longNames)
    (hfloating : ∀ case ∈ used, ¬Number.IsFloating case) (hlimit : 1 ≤ limit) :
    (Returns (elseValue used type limit) ↔ ∀ case ∈ used, Legible case) ∧
      ∀ draw, elseValue used type limit = .ok draw → ∀ rng, ∃ n text,
        (draw rng).1.1 = some text ∧ Number.Denotes text n ∧ -100 ≤ n ∧ n < 100 ∧
        n ∈ draws (between (-100) 100) limit rng ∧
        ((draw rng).1.2 = false → ∀ case ∈ used, ¬Covers case n) ∧
        ((draw rng).1.2 = true ↔ ∀ m ∈ draws (between (-100) 100) limit rng, ∃ case ∈ used,
          Covers case m) ∧
        ((∀ m, -100 ≤ m → m < 100 → ∃ case ∈ used, Covers case m) → (draw rng).1.2 = true) := by
  have hnumeric : TypeText.base type ∈ TypeText.numericNames := List.mem_append_left _ htype
  constructor
  · rw [returns_elseValue_iff]
    simp only [hnumeric, forall_const]
    exact forall₂_congr fun case hcase => caseReadable_iff (hfloating case hcase)
  · intro draw hdraw rng
    rw [elseValue_numeric hnumeric] at hdraw
    obtain ⟨cases, hcases, rfl⟩ := map_eq_ok_iff.1 hdraw
    have htaken : ∀ m, (cases.any fun kept => kept.holds m) = true ↔
        ∃ case ∈ used, Covers case m := by
      intro m
      rw [List.any_eq_true]
      exact holds_numericCases_iff hfloating hcases m
    -- the value and the flag are those of the loop
    let loop := drawUntaken (between (-100) 100) (fun m => cases.any (·.holds m)) limit 0 rng
    have hrun : (elseNumber cases (TypeText.base type) limit rng).1 =
        (some (formatInt loop.1.1 (TypeText.base type)), loop.1.2) := rfl
    have hmem : loop.1.1 ∈ draws (between (-100) 100) limit rng := mem_draws_drawUntaken hlimit
    have hbounds : ∀ m ∈ draws (between (-100) 100) limit rng, -100 ≤ m ∧ m < 100 :=
      forall_mem_draws (between_mem (by decide)) limit rng
    have hexhausted : loop.1.2 = true ↔
        ∀ m ∈ draws (between (-100) 100) limit rng, ∃ case ∈ used, Covers case m := by
      rw [exhausted_drawUntaken_iff]
      exact forall₂_congr fun m _ => htaken m
    rw [hrun]
    refine ⟨loop.1.1, _, rfl, denotes_formatInt htype _, (hbounds _ hmem).1, (hbounds _ hmem).2,
      hmem, ?_, hexhausted, ?_⟩
    · intro hfound case hcase hcovers
      have huntaken := taken_drawUntaken hfound
      rw [(htaken _).2 ⟨case, hcase, hcovers⟩] at huntaken
      cases huntaken
    · intro hall
      exact hexhausted.2 fun m hm => hall m (hbounds m hm).1 (hbounds m hm).2

/-- Ranges of all three kinds leave one integer over, which is the only `else` value. -/
theorem elseValue_integral_ranges :
    ∃ draw, elseValue ["in -100..-1", "0 ..< 5_0", "0..<50", "50 until 99",
      "1_0L"] "Long?" 1000 = .ok draw ∧
      ∀ rng, (draw rng).1.2 = false → ∃ text, (draw rng).1.1 = some text ∧
        Number.Denotes text 99 := by
  have hcases : numericCases ["in -100..-1", "0 ..< 5_0", "0..<50", "50 until 99", "1_0L"] =
      .ok [.range (-100) (-1) true, .range 0 50 false, .range 50 99 false,
        .number (.integer 10)] := by decide
  have hfloating : ∀ case ∈ ["in -100..-1", "0 ..< 5_0", "0..<50", "50 until 99", "1_0L"],
      ¬Number.IsFloating case := by decide
  obtain ⟨-, hvalue⟩ := @elseValue_integral _ "Long?" 1000 (by decide) hfloating (by decide)
  have hdraw : elseValue ["in -100..-1", "0 ..< 5_0", "0..<50", "50 until 99",
    "1_0L"] "Long?" 1000 =
      .ok (elseNumber [.range (-100) (-1) true, .range 0 50 false, .range 50 99 false,
        .number (.integer 10)]
        "Long" 1000) := by
    have hbase : TypeText.base "Long?" = "Long" := by decide
    rw [elseValue_numeric (by decide), hcases, hbase]
    rfl
  refine ⟨_, hdraw, fun rng hfound => ?_⟩
  obtain ⟨n, text, htext, hdenotes, hlow, hhigh, -, huncovered, -⟩ := hvalue _ hdraw rng
  refine ⟨text, htext, ?_⟩
  have hnot : ¬∃ kept ∈ [NumericCase.range (-100) (-1) true, .range 0 50 false, .range 50 99 false,
      .number (.integer 10)], kept.holds n = true := by
    rw [holds_numericCases_iff hfloating hcases]
    rintro ⟨case, hcase, hcovers⟩
    exact huncovered hfound case hcase hcovers
  simp [NumericCase.holds] at hnot
  obtain rfl : n = 99 := by omega
  exact hdenotes

/-- Cases that cover all draws, one of them an integer of 4301 digits, leave no `else` value. -/
theorem elseValue_longInteger :
    (∀ m, -100 ≤ m → m < 100 → Covers "-100..99" m) ∧
      ¬Returns (elseValue ["-100..99", String.ofList (List.replicate 4301 '1')] "Int" 1) := by
  constructor
  · intro m hlow hhigh
    have hrange : rangeCase? (Text.trim "-100..99".toList) =
        some ⟨⟨true, ['1', '0', '0']⟩, ⟨false, ['9', '9']⟩, true⟩ := by decide
    refine .range (rangeCase?_eq_some_iff.1 hrange) ⟨?_, ?_⟩
    · exact hlow
    · rcases lt_or_eq_of_le (show m ≤ 99 by omega) with hlt | heq
      · exact Or.inl hlt
      · exact Or.inr ⟨rfl, heq⟩
  · have hlimit : ∀ n, Returns (elseValue ["-100..99",
      String.ofList (List.replicate (n + 1) '1')] "Int" 1) →
        n + 1 ≤ Text.maxIntegerDigits := by
      intro n hreturns
      rw [← caseReadable_ones_iff]
      exact returns_elseValue_iff.1 hreturns (by decide) _ (by simp)
    intro hreturns
    exact absurd (hlimit 4300 hreturns) (by decide)

end BranchCover.WhenPlan
