import BranchCover.Plan.Combination
import Mathlib.Algebra.Group.Nat.Hom
import Mathlib.Data.List.Nodup
import Mathlib.Data.Nat.Init

/-!
# Planned assignments

Every planned assignment has one truth for each atom. The exhaustive plan takes each such assignment
once, and among them are one with a true and one with a false outcome.

* `searchFrom_keeps`: what the steps of a search keep, the search keeps.
* `fits_choose`, `outcome_of_mem_choose`: planned assignments have the length and the outcome of the
  condition.
* `combinations_choose_ne_nil_iff`: the plans with an assignment.
* `exists_bitAssignment`, `mem_exhaustiveAssignments`: every assignment is that of a number, and is
  taken.
* `exists_outcome`: a condition with an atom takes both outcomes.
* `checked_exhaustive`: the exhaustive plan as a whole.
-/

namespace BranchCover

namespace Plan

/-! ### All assignments -/

@[simp] theorem length_bitAssignment (count i : ℕ) : (bitAssignment count i).length = count := by
  simp [bitAssignment]

theorem bitAssignment_injOn {count i j : ℕ} (hi : i < 2 ^ count) (hj : j < 2 ^ count)
    (h : bitAssignment count i = bitAssignment count j) : i = j := by
  apply Nat.eq_of_testBit_eq
  intro bit
  by_cases hbit : bit < count
  · exact List.map_inj_left.1 h bit (List.mem_range.2 hbit)
  · have hle : 2 ^ count ≤ 2 ^ bit := Nat.pow_le_pow_right (by omega) (by omega)
    rw [Nat.testBit_lt_two_pow (by omega), Nat.testBit_lt_two_pow (by omega)]

/-- Every assignment is that of a number. -/
theorem exists_bitAssignment (assignment : List Bool) :
    ∃ i < 2 ^ assignment.length, bitAssignment assignment.length i = assignment := by
  refine ⟨Nat.ofBits fun j : Fin assignment.length => assignment[j], Nat.ofBits_lt_two_pow _, ?_⟩
  refine List.ext_getElem (by simp) fun j hj hj' => ?_
  simp [bitAssignment, Nat.testBit_ofBits_lt _ _ hj']

theorem mem_exhaustiveAssignments {count : ℕ} {assignment : List Bool} :
    assignment ∈ exhaustiveAssignments count ↔ assignment.length = count := by
  constructor
  · intro hmem
    obtain ⟨i, -, rfl⟩ := List.mem_map.1 hmem
    exact length_bitAssignment count i
  · rintro rfl
    obtain ⟨i, hi, hassignment⟩ := exists_bitAssignment assignment
    exact List.mem_map.2 ⟨i, List.mem_range.2 hi, hassignment⟩

theorem nodup_exhaustiveAssignments (count : ℕ) : (exhaustiveAssignments count).Nodup := by
  refine List.Nodup.map_on (fun i hi j hj h => ?_) List.nodup_range
  exact bitAssignment_injOn (List.mem_range.1 hi) (List.mem_range.1 hj) h

@[simp] theorem length_exhaustiveAssignments (count : ℕ) :
    (exhaustiveAssignments count).length = 2 ^ count := by
  simp [exhaustiveAssignments]

/-! ### The targeted search -/

theorem length_biased (target : Bool) (conditions : List Condition) (rng : Twister) :
    (biased target conditions rng).1.length = conditions.length := by
  induction conditions generalizing rng with
  | nil => rfl
  | cons atom atoms ih =>
    show (biased target atoms (Twister.chance 3 rng).2).1.length + 1 = atoms.length + 1
    rw [ih]

theorem length_attempt (conditions : List Condition) (found : List Combination) (k : ℕ)
    (rng : Twister) : (attempt conditions found k rng).1.length = conditions.length := by
  match k with
  | 0 => exact List.length_map ..
  | 1 => exact List.length_map ..
  | k + 2 => exact length_biased _ conditions rng

/-- One truth for each atom. -/
def Fits (conditions : List Condition) (found : List Combination) : Prop :=
  ∀ combination ∈ found, combination.assignment.length = conditions.length

theorem fits_addNew {conditions : List Condition} {found : List Combination}
    {assignment : List Bool}
    (hfound : Fits conditions found) (hlength : assignment.length = conditions.length) :
    Fits conditions (addNew found (combine conditions assignment)) := by
  unfold addNew
  split_ifs
  · exact hfound
  · intro combination hmem
    rcases List.mem_append.1 hmem with hmem | hmem
    · exact hfound combination hmem
    · rw [List.mem_singleton.1 hmem]
      exact hlength

/-- A search keeps what each of its steps keeps. -/
theorem searchFrom_keeps {conditions : List Condition} (P : List Combination → Prop)
    (step : ∀ found k rng, P found →
      P (addNew found (combine conditions (attempt conditions found k rng).1)))
    (left k : ℕ) {found : List Combination} (hfound : P found) (rng : Twister) :
    P (searchFrom conditions left k found rng).1 := by
  induction left generalizing k found rng with
  | zero => exact hfound
  | succ left ih =>
    have hnext := step found k rng hfound
    show P
      ((if (addNew found (combine conditions (attempt conditions found k rng).1)).length = 2 then
        pure (addNew found (combine conditions (attempt conditions found k rng).1))
      else searchFrom conditions left (k + 1)
        (addNew found (combine conditions (attempt conditions found k rng).1)) : Random _)
        (attempt conditions found k rng).2).1
    split_ifs
    · exact hnext
    · exact ih (k + 1) hnext _

theorem fits_targetedSearch (conditions : List Condition) (budget : ℕ) (rng : Twister) :
    Fits conditions (targetedSearch conditions budget rng).1 :=
  searchFrom_keeps (Fits conditions)
    (fun found k rng hfound => fits_addNew hfound (length_attempt conditions found k rng)) budget 0
      (by simp [Fits]) rng

theorem addNew_ne_nil (found : List Combination) (combination : Combination) :
    addNew found combination ≠ [] := by
  unfold addNew
  split_ifs with hany
  · rintro rfl
    cases hany
  · simp

/-- The first attempt of a search finds a combination. -/
theorem targetedSearch_ne_nil_iff {conditions : List Condition} {budget : ℕ} {rng : Twister} :
    (targetedSearch conditions budget rng).1 ≠ [] ↔ 0 < budget := by
  cases budget with
  | zero => exact iff_of_false (fun h => h rfl) (Nat.lt_irrefl 0)
  | succ left =>
    refine iff_of_true ?_ (Nat.succ_pos left)
    show ((if (addNew [] (combine conditions (attempt conditions [] 0 rng).1)).length = 2 then
        pure (addNew [] (combine conditions (attempt conditions [] 0 rng).1))
      else searchFrom conditions left 1
        (addNew [] (combine conditions (attempt conditions [] 0 rng).1)) : Random _)
        (attempt conditions [] 0 rng).2).1 ≠ []
    have hfirst := addNew_ne_nil [] (combine conditions (attempt conditions [] 0 rng).1)
    split_ifs
    · exact hfirst
    · exact searchFrom_keeps (· ≠ []) (fun _ _ _ _ => addNew_ne_nil _ _) left 1 hfirst _

/-- A plan is empty only where the search has no attempt. -/
theorem combinations_choose_ne_nil_iff {options : Options} {conditions : List Condition}
    {rng : Twister} :
    (choose options conditions rng).1.combinations ≠ [] ↔
      isExhaustive options conditions = true ∨ 0 < options.budget := by
  unfold choose
  split_ifs with hexhaustive
  · refine iff_of_true (fun hnil => ?_) (Or.inl hexhaustive)
    have hlength : ((exhaustiveAssignments conditions.length).map (combine conditions)).length =
        0 :=
      congrArg List.length hnil
    simp at hlength
  · refine Iff.trans targetedSearch_ne_nil_iff ?_
    simp [hexhaustive]

/-- Planned assignments have one truth for each atom. -/
theorem fits_choose (options : Options) (conditions : List Condition) (rng : Twister) :
    Fits conditions (choose options conditions rng).1.combinations := by
  unfold choose
  split_ifs
  · intro combination hmem
    obtain ⟨assignment, hassignment, rfl⟩ := List.mem_map.1 hmem
    exact mem_exhaustiveAssignments.1 hassignment
  · exact fits_targetedSearch conditions _ rng

/-- The outcome of an assignment that a search finds is that of the condition. -/
theorem outcome_of_mem_targetedSearch {conditions : List Condition} {budget : ℕ} {rng : Twister}
    {combination : Combination} (h : combination ∈ (targetedSearch conditions budget rng).1) :
    combination.outcome = Condition.outcome conditions combination.assignment := by
  refine searchFrom_keeps
    (fun found => ∀ combination ∈ found,
      combination.outcome = Condition.outcome conditions combination.assignment)
    (fun found k rng hfound combination hmem => ?_) budget 0 (by simp) rng combination h
  unfold addNew at hmem
  split_ifs at hmem
  · exact hfound combination hmem
  · rcases List.mem_append.1 hmem with hmem | hmem
    · exact hfound combination hmem
    · obtain rfl := List.mem_singleton.1 hmem
      rfl

/-- The outcome of a planned assignment is that of the condition. -/
theorem outcome_of_mem_choose {options : Options} {conditions : List Condition} {rng : Twister}
    {combination : Combination} (h : combination ∈ (choose options conditions rng).1.combinations) :
    combination.outcome = Condition.outcome conditions combination.assignment := by
  unfold choose at h
  split_ifs at h
  · obtain ⟨assignment, -, rfl⟩ := List.mem_map.1 h
    rfl
  · exact outcome_of_mem_targetedSearch h

/-- A plan has both outcomes if each is that of one of its combinations. -/
theorem outcomes_eq_iff {plan : Plan} :
    plan.outcomes = [false, true] ↔ ∀ wanted, ∃ combination ∈ plan.combinations,
      combination.outcome = wanted := by
  simp only [outcomes, List.filter_eq_self, List.any_eq_true, beq_iff_eq, List.forall_mem_cons,
    Bool.forall_bool, List.not_mem_nil, false_imp_iff, implies_true, and_true]

end Plan

namespace Condition

/-! ### Outcomes -/

theorem fold_eq {outcome : Bool} {atoms : List Condition} {truths : List Bool}
    (h : List.Forall₂ (fun atom truth => effective atom truth = outcome) atoms truths) :
    fold outcome atoms truths = outcome := by
  induction h with
  | nil => rfl
  | @cons atom truth atoms truths hfirst _ ih =>
    rw [fold, hfirst]
    have hjoin : atom.connective.join outcome outcome = outcome := by
      cases atom.connective <;> simp [Connective.join]
    rw [hjoin, ih]

/-- Atoms that all contribute the same truth give it as the outcome. -/
theorem outcome_eq {wanted : Bool} {atoms : List Condition} {truths : List Bool} (hne : atoms ≠ [])
    (h : List.Forall₂ (fun atom truth => effective atom truth = wanted) atoms truths) :
    outcome atoms truths = wanted := by
  cases h with
  | nil => exact absurd rfl hne
  | cons hfirst hrest =>
    rw [outcome, hfirst]
    exact fold_eq hrest

/-- A condition with an atom takes both outcomes. -/
theorem exists_outcome {atoms : List Condition} (hne : atoms ≠ []) (wanted : Bool) :
    ∃ truths : List Bool, truths.length = atoms.length ∧ outcome atoms truths = wanted := by
  refine ⟨atoms.map fun atom => wanted != atom.negated, List.length_map .., outcome_eq hne ?_⟩
  rw [List.forall₂_map_right_iff, List.forall₂_same]
  intro atom _
  cases h : atom.negated <;> cases wanted <;> simp [effective, h]

/-- The outcome of a chain with one truth for each atom. -/
theorem evaluate_eq {atoms : List Condition} {truths : List Bool} (hne : atoms ≠ [])
    (hlength : truths.length = atoms.length) :
      evaluate atoms truths = .ok (outcome atoms truths) := by
  rw [evaluate, if_neg hne, if_neg (by omega)]

end Condition

namespace Plan

/-! ### The exhaustive plan -/

/-- The plan that takes every assignment of a condition. -/
def exhaustivePlan (conditions : List Condition) : Plan where
  combinations := (exhaustiveAssignments conditions.length).map (combine conditions)
  policy := .exhaustive

variable {conditions : List Condition}

theorem checked_eq_exhaustivePlan {options : Options} (hne : conditions ≠ [])
    (hpolicy : options.policy = .exhaustive)
    (hcount : (conditions.length : ℤ) ≤ options.maxExhaustiveAtoms) :
    checked options conditions = .ok (pure (exhaustivePlan conditions)) := by
  have hexhaustive : isExhaustive options conditions = true := by
    simp [isExhaustive, hpolicy, hcount]
  rw [checked, if_neg (by simp [hne]), choose, if_pos hexhaustive, exhaustivePlan]

theorem map_assignment_exhaustivePlan (conditions : List Condition) :
    (exhaustivePlan conditions).combinations.map (·.assignment) =
      exhaustiveAssignments conditions.length := by
  rw [exhaustivePlan, List.map_map]
  exact List.map_id _

/-- The `i`-th combination has the bits of `i` and the outcome that they give. -/
theorem getElem?_exhaustivePlan {i : ℕ} {combination : Combination}
    (h : (exhaustivePlan conditions).combinations[i]? = some combination) :
    combination = combine conditions (bitAssignment conditions.length i) := by
  simp only [exhaustivePlan, exhaustiveAssignments, List.getElem?_map, Option.map_eq_some_iff,
    List.getElem?_eq_some_iff] at h
  obtain ⟨_, ⟨_, ⟨hi, rfl⟩, rfl⟩, rfl⟩ := h
  rw [List.getElem_range]

/-- Both outcomes are planned for. -/
theorem outcomes_exhaustivePlan (hne : conditions ≠ []) :
    (exhaustivePlan conditions).outcomes = [false, true] := by
  rw [outcomes_eq_iff]
  intro wanted
  obtain ⟨assignment, hlength, houtcome⟩ := Condition.exists_outcome hne wanted
  exact ⟨combine conditions assignment, List.mem_map_of_mem (mem_exhaustiveAssignments.2 hlength),
    houtcome⟩

/-- **The exhaustive plan is complete.** Under the exhaustive policy a condition with no more atoms
than the limit gets a plan, and no random number is drawn for it. The plan has each assignment once;
in the `i`-th the `j`-th atom has the `j`-th bit of `i`; and each has the outcome that the condition
takes under it. Both outcomes occur, however the atoms are joined and whichever are negated. -/
theorem checked_exhaustive {options : Options} (hne : conditions ≠ [])
    (hpolicy : options.policy = .exhaustive)
    (hcount : (conditions.length : ℤ) ≤ options.maxExhaustiveAtoms) :
    ∃ plan : Plan, checked options conditions = .ok (pure plan) ∧
      plan.policy = .exhaustive ∧ plan.exhausted = false ∧
      plan.combinations.length = 2 ^ conditions.length ∧
      (∀ assignment : List Bool, assignment.length = conditions.length →
        (plan.combinations.map (·.assignment)).count assignment = 1) ∧
      (∀ (i : ℕ) (combination : Combination), plan.combinations[i]? = some combination →
        combination.assignment.length = conditions.length ∧
        (∀ j < conditions.length, combination.assignment[j]? = some (i.testBit j)) ∧
        Condition.evaluate conditions combination.assignment = .ok combination.outcome) ∧
      plan.outcomes = [false, true] := by
  refine ⟨exhaustivePlan conditions, checked_eq_exhaustivePlan hne hpolicy hcount, rfl, rfl,
    ?_, ?_, ?_, outcomes_exhaustivePlan hne⟩
  · rw [exhaustivePlan, List.length_map, length_exhaustiveAssignments]
  · intro assignment hlength
    rw [map_assignment_exhaustivePlan]
    exact List.count_eq_one_of_mem (nodup_exhaustiveAssignments _)
      (mem_exhaustiveAssignments.2 hlength)
  · intro i combination h
    obtain rfl := getElem?_exhaustivePlan h
    refine ⟨length_bitAssignment _ i, fun j hj => ?_,
      Condition.evaluate_eq hne (length_bitAssignment _ i)⟩
    simp [combine, bitAssignment, hj]

/-- The chain `!a && b || !c`. -/
def mixedChain : List Condition :=
  [{ text := "a", negated := true }, { text := "b", connective := .and },
    { text := "c", connective := .or, negated := true }]

/-- The chain has eight combinations, of which the sixth takes the bits of five. -/
theorem checked_exhaustive_mixed :
    ∃ plan : Plan, checked {} mixedChain = .ok (pure plan) ∧ plan.combinations.length = 8 ∧
      plan.outcomes = [false, true] ∧
      ∀ combination, plan.combinations[5]? = some combination →
        combination.assignment[2]? = some true := by
  obtain ⟨plan, hplan, -, -, hlength, -, hcombinations, houtcomes⟩ :=
    @checked_exhaustive mixedChain {} (by decide) rfl (by decide)
  refine ⟨plan, hplan, hlength, houtcomes, fun combination h => ?_⟩
  obtain ⟨-, hbits, -⟩ := hcombinations 5 combination h
  exact hbits 2 (by decide)

end Plan

end BranchCover
