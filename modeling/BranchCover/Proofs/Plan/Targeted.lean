import BranchCover.Proofs.Condition.Woven
import BranchCover.Proofs.Plan.Assignments

/-!
# The targeted search

A targeted search looks for one assignment with each outcome. It first tries the two assignments
that give all atoms the same truth, its *probes*. They have different outcomes unless the last of
several atoms is negated, and then they have the same one; only then does the search go on to random
assignments.

* `Condition.outcome_ne_iff`: the chains to which the probes give different outcomes.
* `Distinct`: combinations of which no two have the same outcome.
* `targetedSearch_add_two`: a search is decided by its probes or goes on behind them.
* `targeted_outcomes`: the targeted search as a whole.
-/

namespace BranchCover

namespace Condition

variable {atoms : List Condition}

/-! ### Chains whose atoms all have the same truth -/

/-- The outcome of a chain goes through the outcome of its beginning. -/
theorem fold_append (first second : List Condition) (outcome truth : Bool) :
    fold outcome (first ++ second) ((first ++ second).map fun _ => truth) =
      fold (fold outcome first (first.map fun _ => truth)) second (second.map fun _ => truth) := by
  induction first generalizing outcome with
  | nil => rfl
  | cons atom first ih =>
    rw [List.cons_append, List.map_cons, fold, ih, List.map_cons, fold]

/-- Atoms that are not negated pass their common truth on. -/
theorem outcome_of_positive (hne : atoms ≠ []) (hpositive : ∀ atom ∈ atoms, atom.negated = false)
    (truth : Bool) :
    outcome atoms (atoms.map fun _ => truth) = truth := by
  refine outcome_eq hne ?_
  rw [List.forall₂_map_right_iff, List.forall₂_same]
  intro atom hatom
  simp [effective, hpositive atom hatom]

/-- A last atom that is negated is joined to the opposite of what it contributes. -/
theorem outcome_concat (hne : atoms ≠ []) (hpositive : ∀ atom ∈ atoms, atom.negated = false)
    (last : Condition)
    (truth : Bool) :
    outcome (atoms ++ [last]) ((atoms ++ [last]).map fun _ => truth) =
      last.connective.join truth (last.effective truth) := by
  have hatoms := outcome_of_positive hne hpositive truth
  cases atoms with
  | nil => exact absurd rfl hne
  | cons first rest =>
    rw [List.map_cons, outcome] at hatoms
    rw [List.cons_append, List.map_cons, outcome, fold_append, hatoms]
    rfl

/-- **All atoms true and all atoms false give different outcomes exactly if there is one atom or
none is negated**, in a chain in which only the last atom may be negated. -/
theorem outcome_ne_iff (hne : atoms ≠ [])
    (hpositive : ∀ atom ∈ atoms.dropLast, atom.negated = false)
    (hjoined : ∀ atom ∈ atoms.tail, atom.connective = .and ∨ atom.connective = .or) :
    outcome atoms (atoms.map fun _ => true) ≠ outcome atoms (atoms.map fun _ => false) ↔
      atoms.length = 1 ∨ ∀ atom ∈ atoms, atom.negated = false := by
  obtain ⟨first, last, rfl⟩ : ∃ first last, atoms = first ++ [last] :=
    ⟨_, _, (List.dropLast_append_getLast hne).symm⟩
  rw [List.dropLast_concat] at hpositive
  by_cases hfirst : first = []
  · -- a single atom contributes its truth or the opposite of it
    subst hfirst
    simp [outcome, fold, effective]
  · have hmem : last ∈ (first ++ [last]).tail := by
      rw [List.tail_append_of_ne_nil hfirst]
      exact List.mem_append_right _ (List.mem_singleton_self last)
    have hlength : (first ++ [last]).length ≠ 1 := by simpa using hfirst
    have hatoms : (∀ atom ∈ first ++ [last], atom.negated = false) ↔ last.negated = false := by
      rw [List.forall_mem_append, List.forall_mem_singleton]
      exact and_iff_right hpositive
    rw [outcome_concat hfirst hpositive, outcome_concat hfirst hpositive,
      or_iff_right hlength, hatoms]
    cases hnegated : last.negated <;> rcases hjoined last hmem with hconnective | hconnective <;>
      simp [effective, hnegated, hconnective, Connective.join]

end Condition

namespace Plan

variable {conditions : List Condition} {found : List Combination}

/-! ### What a search keeps -/

/-- Combinations that a search may have found: no two have the same outcome. -/
def Distinct (found : List Combination) : Prop :=
  found.Pairwise fun first second => first.outcome ≠ second.outcome

theorem Distinct.addNew (h : Distinct found) (combination : Combination) :
    Distinct (addNew found combination) := by
  unfold Plan.addNew
  split_ifs with hany
  · exact h
  · refine List.pairwise_append.2 ⟨h, List.pairwise_singleton _ _,
      fun first hfirst second hsecond heq => hany ?_⟩
    obtain rfl := List.mem_singleton.1 hsecond
    exact List.any_eq_true.2 ⟨first, hfirst, by simpa using heq⟩

theorem distinct_targetedSearch (conditions : List Condition) (budget : ℕ) (rng : Twister) :
    Distinct (targetedSearch conditions budget rng).1 :=
  searchFrom_keeps Distinct (fun _ _ _ hfound => hfound.addNew _) budget 0 List.Pairwise.nil rng

/-- There are two combinations exactly if both outcomes are found. -/
theorem Distinct.length_lt_two_iff (h : Distinct found) :
    found.length < 2 ↔ ∃ outcome, ∀ combination ∈ found, combination.outcome ≠ outcome := by
  match found, h with
  | [], _ => simp
  | [combination], _ =>
    exact iff_of_true (by simp) ⟨!combination.outcome, by simp⟩
  | first :: second :: rest, h =>
    have hdiffer : first.outcome ≠ second.outcome :=
      (List.pairwise_cons.1 h).1 second List.mem_cons_self
    refine iff_of_false (by simp) ?_
    rintro ⟨outcome, hmissing⟩
    rw [List.forall_mem_cons, List.forall_mem_cons] at hmissing
    obtain ⟨hfirst, hsecond, -⟩ := hmissing
    cases outcome <;> simp_all

/-! ### The probes -/

/-- The combination in which every atom has the same truth. -/
def probe (conditions : List Condition) (truth : Bool) : Combination :=
  combine conditions (conditions.map fun _ => truth)

theorem addNew_singleton (first second : Combination) :
    addNew [first] second = if first.outcome ≠ second.outcome then [first, second]
      else [first] := by
  by_cases h : first.outcome = second.outcome <;> simp [addNew, h]

/-- A search that may make two attempts makes the two probes. If they have different outcomes it
ends there, and otherwise it goes on with the first of them. -/
theorem targetedSearch_add_two (conditions : List Condition) (left : ℕ) :
    targetedSearch conditions (left + 2) =
      if (probe conditions true).outcome ≠ (probe conditions false).outcome then
        pure [probe conditions true, probe conditions false]
      else searchFrom conditions left 2 [probe conditions true] := by
  show (if (addNew [probe conditions true] (probe conditions false)).length = 2 then
      pure (addNew [probe conditions true] (probe conditions false))
    else searchFrom conditions left 2 (addNew [probe conditions true] (probe conditions false)) :
      Random _) = _
  rw [addNew_singleton]
  by_cases hdiffer : (probe conditions true).outcome ≠ (probe conditions false).outcome
  · rw [if_pos hdiffer, if_pos hdiffer]
    rfl
  · rw [if_neg hdiffer, if_neg hdiffer]
    rfl

/-- A search with a budget needs no luck: it ends where a search of two attempts ends, with both
outcomes and with no random number drawn. -/
def NeedsNoLuck (conditions : List Condition) (budget : ℕ) (rng : Twister) : Prop :=
  ∃ plan : Plan, plan.outcomes = [false, true] ∧ targeted conditions 2 rng = (plan, rng) ∧
    targeted conditions budget rng = (plan, rng)

theorem needsNoLuck_iff {budget : ℕ} (hbudget : 2 ≤ budget) (rng : Twister) :
    NeedsNoLuck conditions budget rng ↔
    (probe conditions true).outcome ≠ (probe conditions false).outcome := by
  obtain ⟨left, rfl⟩ := Nat.exists_eq_add_of_le' hbudget
  have hprobes : targetedSearch conditions 2 = _ := targetedSearch_add_two conditions 0
  constructor
  · rintro ⟨plan, houtcomes, htwo, -⟩ hsame
    rw [targeted, hprobes, if_neg (not_not.2 hsame)] at htwo
    obtain ⟨rfl, -⟩ := Prod.mk.inj htwo
    -- the only combination has the only outcome
    obtain ⟨combination, hmem, hother⟩ :=
      outcomes_eq_iff.1 houtcomes (!(probe conditions true).outcome)
    obtain rfl := List.mem_singleton.1 hmem
    simp at hother
  · intro hdiffer
    refine ⟨{ combinations := [probe conditions true, probe conditions false],
              policy := .targeted },
      outcomes_eq_iff.2 fun wanted => ?_, ?_, ?_⟩
    · by_cases hwanted : (probe conditions true).outcome = wanted
      · exact ⟨_, List.mem_cons_self, hwanted⟩
      · refine ⟨_, List.mem_cons_of_mem _ List.mem_cons_self, ?_⟩
        rw [Bool.eq_not.2 (Ne.symm hdiffer), Bool.eq_not.2 (Ne.symm hwanted)]
    · rw [targeted, hprobes, if_pos hdiffer]
      rfl
    · rw [targeted, targetedSearch_add_two, if_pos hdiffer]
      rfl

/-- **What a targeted search finds, and when it needs no luck.** Whatever the budget and the random
numbers, no two of the combinations that it finds have the same outcome, each has the outcome that
the condition takes under it, and the search is exhausted exactly if some outcome is missing. If the
atoms are those of a text and the budget allows two attempts, these reach both outcomes exactly if
there is one atom or none is negated, and then no random number is drawn. -/
theorem targeted_outcomes (hne : conditions ≠ []) (budget : ℤ) (rng : Twister) :
    Distinct (targeted conditions budget.toNat rng).1.combinations ∧
      (∀ combination ∈ (targeted conditions budget.toNat rng).1.combinations,
        Condition.evaluate conditions combination.assignment = .ok combination.outcome) ∧
      ((targeted conditions budget.toNat rng).1.exhausted = true ↔
        ∃ outcome, ∀ combination ∈ (targeted conditions budget.toNat rng).1.combinations,
          combination.outcome ≠ outcome) ∧
      ∀ text : String, Condition.decompose text = conditions → 2 ≤ budget →
        (NeedsNoLuck conditions budget.toNat rng ↔
          conditions.length = 1 ∨ ∀ atom ∈ conditions, atom.negated = false) := by
  have hdistinct : Distinct (targeted conditions budget.toNat rng).1.combinations :=
    distinct_targetedSearch conditions budget.toNat rng
  refine ⟨hdistinct, fun combination hcombination => ?_, ?_, ?_⟩
  · rw [Condition.evaluate_eq hne (fits_targetedSearch conditions _ rng combination hcombination),
      outcome_of_mem_targetedSearch hcombination]
  · rw [← hdistinct.length_lt_two_iff]
    exact decide_eq_true_iff
  · rintro text rfl hbudget
    obtain ⟨-, -, hpositive, hjoined, -⟩ := Condition.decompose_woven text
    rw [needsNoLuck_iff (by omega)]
    exact Condition.outcome_ne_iff hne hpositive hjoined

/-- The search for `a && b || c` needs no luck, and that for `a && b || !c` does. -/
theorem targeted_outcomes_negated :
    NeedsNoLuck (Condition.decompose "a && b || c") 100 (Twister.ofSeed 42) ∧
      ¬NeedsNoLuck (Condition.decompose "a && b || !c") 100 (Twister.ofSeed 42) := by
  have hpositive : Condition.decompose "a && b || c" =
      [{ text := "a" }, { text := "b", connective := .and },
        { text := "c", connective := .or }] := by cbv
  have hnegated : Condition.decompose "a && b || !c" =
      [{ text := "a" }, { text := "b", connective := .and },
        { text := "c", connective := .or, negated := true }] := by cbv
  obtain ⟨-, -, -, hfirst⟩ := targeted_outcomes
    (by simp [hpositive] : Condition.decompose "a && b || c" ≠ []) 100
    (Twister.ofSeed 42)
  obtain ⟨-, -, -, hsecond⟩ := targeted_outcomes
    (by simp [hnegated] : Condition.decompose "a && b || !c" ≠ []) 100
    (Twister.ofSeed 42)
  constructor
  · rw [show (100 : ℕ) = (100 : ℤ).toNat from rfl, hfirst _ rfl (by decide), hpositive]
    exact Or.inr (by decide)
  · rw [show (100 : ℕ) = (100 : ℤ).toNat from rfl, hsecond _ rfl (by decide), hnegated]
    decide

end Plan

end BranchCover
