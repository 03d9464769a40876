import BranchCover.Plan.WhenEntry
import BranchCover.Proofs.Random.Choice

/-!
# Drawing until a draw is not taken

A generator has a list of next draws, and drawing until a draw is not taken looks at this list only:
it ends at the first draw that is not taken, and with the last one where all are.

* `drawUntaken_eq`: the value and the flag as a search in the list of draws.
* `mem_draws_drawUntaken`, `taken_drawUntaken`, `exhausted_drawUntaken_iff`: what they say about the
  draws.
-/

namespace BranchCover

namespace WhenPlan

open Twister

variable {α : Type} {draw : Random α} {taken : α → Bool}

theorem drawUntaken_succ (left : ℕ) (last : α) (rng : Twister) :
    drawUntaken draw taken (left + 1) last rng =
      if taken (draw rng).1 then drawUntaken draw taken left (draw rng).1 (draw rng).2
      else (((draw rng).1, false), (draw rng).2) := by
  show (if taken (draw rng).1 = true then drawUntaken draw taken left (draw rng).1
    else pure ((draw rng).1, false) : Random (α × Bool)) (draw rng).2 = _
  split_ifs <;> rfl

/-- **Drawing until a draw is not taken finds the first such draw, or is left with the last
one.** -/
theorem drawUntaken_eq (limit : ℕ) (last : α) (rng : Twister) :
    (drawUntaken draw taken limit last rng).1 =
      match (draws draw limit rng).find? (!taken ·) with
      | some a => (a, false)
      | none => ((draws draw limit rng).getLastD last, true) := by
  induction limit generalizing last rng with
  | zero => rfl
  | succ left ih =>
    rw [drawUntaken_succ, draws, List.find?_cons, List.getLastD_cons]
    cases htaken : taken (draw rng).1 with
    | false => rfl
    | true => exact ih _ _

theorem drawUntaken_cases (draw : Random α) (taken : α → Bool) (limit : ℕ) (last : α)
    (rng : Twister) :
    (∃ a before after, draws draw limit rng = before ++ a :: after ∧
      (∀ b ∈ before, taken b = true) ∧ taken a = false ∧
        (drawUntaken draw taken limit last rng).1 = (a, false)) ∨
      (∀ b ∈ draws draw limit rng, taken b = true) ∧
        (drawUntaken draw taken limit last rng).1 =
          ((draws draw limit rng).getLastD last, true) := by
  rw [drawUntaken_eq]
  cases hfound : (draws draw limit rng).find? (!taken ·) with
  | some a =>
    obtain ⟨ha, before, after, hdraws, hbefore⟩ := List.find?_eq_some_iff_append.1 hfound
    exact Or.inl ⟨a, before, after, hdraws, by simpa using hbefore, by simpa using ha, rfl⟩
  | none => exact Or.inr ⟨by simpa using List.find?_eq_none.1 hfound, rfl⟩

variable {limit : ℕ} {last : α} {rng : Twister}

/-- The value is one of the draws. -/
theorem mem_draws_drawUntaken (hlimit : 1 ≤ limit) :
    (drawUntaken draw taken limit last rng).1.1 ∈ draws draw limit rng := by
  rcases drawUntaken_cases draw taken limit last rng with
    ⟨a, before, after, hdraws, -, -, hfound⟩ | ⟨-, hfound⟩
  · rw [hfound, hdraws]
    exact List.mem_append_right before List.mem_cons_self
  · rw [hfound, List.getLastD_eq_getLast?, List.getLast?_eq_some_getLast (draws_ne_nil hlimit rng)]
    exact List.getLast_mem _

/-- A value that was not given up on is not taken. -/
theorem taken_drawUntaken (h : (drawUntaken draw taken limit last rng).1.2 = false) :
    taken (drawUntaken draw taken limit last rng).1.1 = false := by
  rcases drawUntaken_cases draw taken limit last rng with
    ⟨a, -, -, -, -, ha, hfound⟩ | ⟨-, hfound⟩
  · rw [hfound]
    exact ha
  · rw [hfound] at h
    cases h

/-- The search is exhausted exactly if every draw was taken. -/
theorem exhausted_drawUntaken_iff :
    (drawUntaken draw taken limit last rng).1.2 = true ↔
    ∀ a ∈ draws draw limit rng, taken a = true := by
  rcases drawUntaken_cases draw taken limit last rng with
    ⟨a, before, after, hdraws, -, ha, hfound⟩ | ⟨hall, hfound⟩
  · rw [hfound]
    refine iff_of_false (by simp) fun hall => ?_
    rw [hall a (by simp [hdraws])] at ha
    cases ha
  · rw [hfound]
    exact iff_of_true rfl hall

end WhenPlan

end BranchCover
