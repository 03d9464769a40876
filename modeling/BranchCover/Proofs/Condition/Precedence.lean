import BranchCover.Condition.Basic
import BranchCover.Proofs.Plan.Assignments
import Mathlib.Data.List.SplitBy

/-!
# Precedence

The language reads a chain of atoms with `&&` binding tighter than `||`: as a disjunction of
conjunctions. The outcome that is computed applies the connectives from left to right. The two
differ exactly for the chains in which an `&&` stands behind an `||`.

* `conjunctions`: the maximal runs of atoms that `&&` joins.
* `precedenceOutcome`: the outcome with precedence.
* `evaluate_precedence`: the chains whose outcome is that with precedence under every assignment.
-/

namespace BranchCover.Condition

/-- Whether an atom belongs to the run of the atom before it. -/
def continuesRun (_ next : Condition × Bool) : Bool := next.1.connective == .and

/-- Whether all atoms of a run contribute truth. -/
def runHolds (run : List (Condition × Bool)) : Bool :=
  run.all fun (atom, truth) => atom.effective truth

/-- The maximal runs of atoms that `&&` joins, each atom with its truth. -/
def conjunctions (atoms : List Condition) (truths : List Bool) : List (List (Condition × Bool)) :=
  (atoms.zip truths).splitBy continuesRun

/-- The outcome of a chain in which `&&` binds tighter than `||`. -/
def precedenceOutcome (atoms : List Condition) (truths : List Bool) : Bool :=
  (conjunctions atoms truths).any runHolds

/-- In a list of atoms no `&&` stands behind an `||`. -/
def AndsFirst (atoms : List Condition) : Prop :=
  atoms.Pairwise fun earlier later => ¬(earlier.connective = .or ∧ later.connective = .and)

instance (atoms : List Condition) : Decidable (AndsFirst atoms) :=
  inferInstanceAs (Decidable (atoms.Pairwise _))

/-! ### The outcome with precedence, from left to right -/

/-- The outcome with precedence of the rest of a chain, from the conjunction of the run under
way. -/
def precedenceFold (run : Bool) : List Condition → List Bool → Bool
  | atom :: atoms, truth :: truths =>
    if atom.connective = .and then precedenceFold (run && atom.effective truth) atoms truths
    else run || precedenceFold (atom.effective truth) atoms truths
  | _, _ => run

/-- A run with the rest of a chain behind it: what `&&` joins to the run belongs to it. -/
theorem any_splitBy_append {run : List (Condition × Bool)} (hne : run ≠ [])
    (hrun : run.IsChain fun atom next => continuesRun atom next = true) (atoms : List Condition)
    (truths : List Bool) :
    ((run ++ atoms.zip truths).splitBy continuesRun).any runHolds =
      precedenceFold (runHolds run) atoms truths := by
  induction atoms generalizing run truths with
  | nil => simp [precedenceFold, List.splitBy_of_isChain hne hrun]
  | cons atom atoms ih =>
    have hwhole : run.splitBy continuesRun = [run] := List.splitBy_of_isChain hne hrun
    cases truths with
    | nil => simp [precedenceFold, hwhole]
    | cons truth truths =>
      rw [List.zip_cons_cons, precedenceFold]
      by_cases hand : atom.connective = .and
      · have hlonger : (run ++ [(atom, truth)]).IsChain fun atom next =>
            continuesRun atom next = true := by
          refine List.isChain_append.2 ⟨hrun, List.isChain_singleton _, fun _ _ next hnext => ?_⟩
          obtain rfl : next = (atom, truth) := by simpa using hnext.symm
          simp [continuesRun, hand]
        rw [if_pos hand, List.append_cons, ih (by simp) hlonger]
        simp [runHolds]
      · have hnext := ih (List.cons_ne_nil (atom, truth) []) (List.isChain_singleton _) truths
        rw [List.singleton_append] at hnext
        rw [if_neg hand, List.splitBy_append_cons _ (by simp [continuesRun, hand]), List.any_append,
          hwhole, hnext]
        simp [runHolds]

theorem precedenceOutcome_cons (first : Condition) (rest : List Condition) (truth : Bool)
    (truths : List Bool) :
    precedenceOutcome (first :: rest) (truth :: truths) =
      precedenceFold (first.effective truth) rest truths := by
  have hrun := any_splitBy_append (List.cons_ne_nil (first, truth) [])
    (List.isChain_singleton _) rest truths
  simpa [precedenceOutcome, conjunctions, runHolds] using hrun

/-! ### Chains without `&&` behind `||` -/

variable {atoms : List Condition} {truths : List Bool}

/-- Behind the last `&&` both outcomes are disjunctions. -/
theorem fold_or (hor : ∀ atom ∈ atoms, atom.connective = .or) (outcome run : Bool) :
    fold (outcome || run) atoms truths = (outcome || precedenceFold run atoms truths) := by
  induction atoms generalizing outcome run truths with
  | nil => rfl
  | cons atom atoms ih =>
    cases truths with
    | nil => rfl
    | cons truth truths =>
      rw [List.forall_mem_cons] at hor
      rw [fold, precedenceFold, hor.1, if_neg (by simp), Connective.join, ih hor.2, Bool.or_assoc]

/-- Precedence does not matter while no `&&` stands behind an `||`. -/
theorem fold_eq_precedenceFold
    (hjoined : ∀ atom ∈ atoms, atom.connective = .and ∨ atom.connective = .or)
    (h : AndsFirst atoms) (outcome : Bool) :
    fold outcome atoms truths = precedenceFold outcome atoms truths := by
  induction atoms generalizing outcome truths with
  | nil => rfl
  | cons atom atoms ih =>
    cases truths with
    | nil => rfl
    | cons truth truths =>
      rw [List.forall_mem_cons] at hjoined
      obtain ⟨hbehind, hrest⟩ := List.pairwise_cons.1 h
      rw [fold, precedenceFold]
      rcases hjoined.1 with hand | hor
      · rw [hand, if_pos rfl, Connective.join]
        exact ih hjoined.2 hrest _
      · have hors : ∀ later ∈ atoms, later.connective = .or := fun later hlater =>
          (hjoined.2 later hlater).resolve_left fun hand => hbehind later hlater ⟨hor, hand⟩
        rw [hor, if_neg (by simp), Connective.join]
        exact fold_or hors _ _

/-! ### Chains with `&&` behind `||` -/

/-- Atoms that contribute no truth make the outcome false if one of them is joined by `&&`. -/
theorem fold_negated (hjoined : ∀ atom ∈ atoms, atom.connective = .and ∨ atom.connective = .or)
    (hand : ∃ atom ∈ atoms, atom.connective = .and) (outcome : Bool) :
    fold outcome atoms (atoms.map (·.negated)) = false := by
  induction atoms generalizing outcome with
  | nil => simp at hand
  | cons atom atoms ih =>
    have heffective : ∀ atom : Condition, atom.effective atom.negated = false := fun atom => by
      simp [effective]
    rw [List.forall_mem_cons] at hjoined
    rw [List.map_cons, fold, heffective]
    rcases hjoined.1 with hfirst | hfirst
    · rw [hfirst, Connective.join, Bool.and_false]
      refine fold_eq ?_
      rw [List.forall₂_map_right_iff]
      exact List.forall₂_same.2 fun atom _ => heffective atom
    · rw [hfirst, Connective.join, Bool.or_false]
      refine ih hjoined.2 ?_ outcome
      simpa [hfirst] using hand

theorem exists_and_of_not_andsFirst (h : ¬AndsFirst atoms) :
    ∃ atom ∈ atoms, atom.connective = .and := by
  by_contra hnone
  refine h (List.pairwise_of_forall_mem_list ?_)
  rintro earlier - later hlater ⟨-, hand⟩
  exact hnone ⟨later, hlater, hand⟩

/-- The atoms up to an `||` contribute truth and those behind it none: then the first run is true,
and an `&&` behind it makes the outcome from left to right false. -/
theorem exists_fold_false (hjoined : ∀ atom ∈ atoms, atom.connective = .and ∨ atom.connective = .or)
    (h : ¬AndsFirst atoms) :
    ∃ truths : List Bool, truths.length = atoms.length ∧ fold true atoms truths = false ∧
      precedenceFold true atoms truths = true := by
  induction atoms with
  | nil => exact absurd List.Pairwise.nil h
  | cons atom atoms ih =>
    rw [List.forall_mem_cons] at hjoined
    rcases hjoined.1 with hand | hor
    · have hrest : ¬AndsFirst atoms := fun hrest =>
        h (List.pairwise_cons.2 ⟨fun later _ => by simp [hand], hrest⟩)
      obtain ⟨truths, hlength, hfold, hprecedence⟩ := ih hjoined.2 hrest
      have heffective : atom.effective (!atom.negated) = true := by simp [effective]
      refine ⟨(!atom.negated) :: truths, by simp [hlength], ?_, ?_⟩
      · rwa [fold, hand, heffective, Connective.join, Bool.and_true]
      · rwa [precedenceFold, if_pos hand, heffective, Bool.and_true]
    · have hbehind : ∃ later ∈ atoms, later.connective = .and := by
        by_cases hrest : AndsFirst atoms
        · by_contra hnone
          refine h (List.pairwise_cons.2 ⟨fun later hlater hboth => ?_, hrest⟩)
          exact hnone ⟨later, hlater, hboth.2⟩
        · exact exists_and_of_not_andsFirst hrest
      refine ⟨false :: atoms.map (·.negated), by simp, ?_, ?_⟩
      · rw [fold]
        exact fold_negated hjoined.2 hbehind _
      · rw [precedenceFold, if_neg (by simp [hor]), Bool.true_or]

/-! ### The reach of the outcome -/

/-- **The outcome from left to right is that with precedence, under every assignment, exactly for
the chains in which no `&&` stands behind an `||`.** What the first atom is marked with joins it to
nothing. -/
theorem evaluate_precedence (first : Condition) (rest : List Condition)
    (hjoined : ∀ atom ∈ rest, atom.connective = .and ∨ atom.connective = .or) :
    (∀ truths : List Bool, truths.length = (first :: rest).length →
        evaluate (first :: rest) truths = .ok (precedenceOutcome (first :: rest) truths)) ↔
      AndsFirst rest := by
  constructor
  · intro hagree
    by_contra hbehind
    obtain ⟨truths, hlength, hfold, hprecedence⟩ := exists_fold_false hjoined hbehind
    have heffective : first.effective (!first.negated) = true := by simp [effective]
    have hlengths : ((!first.negated) :: truths).length = (first :: rest).length := by
      simp [hlength]
    have hequal := hagree _ hlengths
    rw [evaluate_eq (by simp) hlengths, outcome, precedenceOutcome_cons, heffective, hfold,
      hprecedence] at hequal
    cases hequal
  · intro hands truths hlength
    cases truths with
    | nil => simp at hlength
    | cons truth truths =>
      rw [evaluate_eq (by simp) hlength, outcome, precedenceOutcome_cons,
        fold_eq_precedenceFold hjoined hands]

/-- What follows `a` in `a && !b || c`. -/
def andThenOr : List Condition :=
  [{ text := "b", connective := .and, negated := true }, { text := "c", connective := .or }]

/-- What follows `a` in `a || !b && c`. -/
def orThenAnd : List Condition :=
  [{ text := "b", connective := .or, negated := true }, { text := "c", connective := .and }]

/-- The first of the two chains is within reach, and the second is not. -/
theorem evaluate_precedence_mixed :
    (∀ truths : List Bool, truths.length = ({ text := "a" } :: andThenOr : List Condition).length →
        evaluate ({ text := "a" } :: andThenOr) truths =
          .ok (precedenceOutcome ({ text := "a" } :: andThenOr) truths)) ∧
      ¬∀ truths : List Bool, truths.length =
        ({ text := "a" } :: orThenAnd : List Condition).length →
        evaluate ({ text := "a" } :: orThenAnd) truths =
          .ok (precedenceOutcome ({ text := "a" } :: orThenAnd) truths) :=
  ⟨(evaluate_precedence { text := "a" } andThenOr (by decide)).2 (by decide),
    mt (evaluate_precedence { text := "a" } orThenAnd (by decide)).1 (by decide)⟩

end BranchCover.Condition
