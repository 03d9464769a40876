import BranchCover.DataFlow.Analysis
import Mathlib.Data.List.Induction

/-!
# The definition that reaches a use

A use is paired with the first of the definitions of highest rank that can reach it. A definition in
the file of the use ranks above all in other files, and by its line among those of the file. The
search keeps one number for each definition, with `-1` for another file, so it tells files apart
only where lines are not negative.

* `Candidate`, `Outranks`, `nearest`: the definitions that can reach a use, and those of highest
  rank.
* `BestSoFar`: what the search knows behind some definitions.
* `map_bestDefinition?`: the search finds the first of the definitions of highest rank.
-/

namespace BranchCover.DataFlow

/-! ### Candidates and their ranks -/

/-- A definition can reach a use of its name whose scope it encloses, and in its own file only
behind its line. -/
def Candidate (use : Use) (definition : Definition) : Prop :=
  definition.name = use.name ∧ Scope.encloses definition.scope use.scope = true ∧
    (definition.file = use.file → definition.line < use.line)

instance (use : Use) (definition : Definition) : Decidable (Candidate use definition) :=
  inferInstanceAs (Decidable (_ ∧ _ ∧ _))

/-- A definition in the file of a use ranks above those in other files and on earlier lines of its
own. -/
def Outranks (use : Use) (definition other : Definition) : Prop :=
  definition.file = use.file ∧ (other.file = use.file → other.line < definition.line)

instance (use : Use) (definition other : Definition) : Decidable (Outranks use definition other) :=
  inferInstanceAs (Decidable (_ ∧ _))

/-- The candidates that no candidate outranks, in the order of the definitions. -/
def nearest (definitions : List Definition) (use : Use) : List Definition :=
  definitions.filter fun definition =>
    Candidate use definition ∧ ∀ other ∈ definitions, Candidate use other →
      ¬ Outranks use other definition

variable {use : Use} {definition other : Definition} {definitions : List Definition}
  {rank otherRank : Int}

theorem rank?_eq_some_iff :
    rank? definition use = some rank ↔
      Candidate use definition ∧ rank = if definition.file = use.file then definition.line
        else -1 := by
  unfold rank? Candidate
  by_cases hreach : definition.name = use.name ∧ Scope.encloses definition.scope use.scope = true
  · by_cases hfile : definition.file = use.file
    · by_cases hline : definition.line < use.line
      · simp [hreach, hfile, hline, eq_comm]
      · simp [hreach, hfile, hline]
    · simp [hreach, hfile, eq_comm]
  · rw [if_neg hreach]
    simp only [reduceCtorEq, false_iff]
    exact fun h => hreach ⟨h.1.1, h.1.2.1⟩

theorem rank?_eq_none_iff : rank? definition use = none ↔ ¬ Candidate use definition := by
  rw [Option.eq_none_iff_forall_ne_some]
  constructor
  · exact fun h hcandidate => h _ (rank?_eq_some_iff.2 ⟨hcandidate, rfl⟩)
  · exact fun h rank hrank => h (rank?_eq_some_iff.1 hrank).1

/-- On lines that are not negative, the numbers of the search order candidates by their ranks. -/
theorem outranks_iff_lt (hrank : rank? definition use = some rank)
    (hother : rank? other use = some otherRank)
    (hline : 0 ≤ definition.line) (hotherLine : 0 ≤ other.line) :
    Outranks use definition other ↔ otherRank < rank := by
  obtain ⟨-, rfl⟩ := rank?_eq_some_iff.1 hrank
  obtain ⟨-, rfl⟩ := rank?_eq_some_iff.1 hother
  unfold Outranks
  by_cases hfile : definition.file = use.file
  · by_cases hotherFile : other.file = use.file
    · simp [hfile, hotherFile]
    · simp only [hfile, hotherFile, if_true, if_false, false_implies, and_self, true_iff]
      omega
  · simp only [hfile, if_false, false_and, false_iff]
    split_ifs <;> omega

/-! ### The search -/

/-- What the search knows behind some definitions: that none can reach the use, or the first one of
the highest rank among them, with its rank and its place. -/
inductive BestSoFar (use : Use) : List Definition → Option (Int × ℕ × Definition) → Prop
  | nothing {definitions : List Definition} (h : ∀ other ∈ definitions, rank? other use = none) :
      BestSoFar use definitions none
  | found {before after : List Definition} {definition : Definition} {rank : Int}
      (hrank : rank? definition use = some rank)
      (hbefore : ∀ other ∈ before, ∀ otherRank, rank? other use = some otherRank → otherRank < rank)
      (hafter : ∀ other ∈ after, ∀ otherRank, rank? other use = some otherRank → otherRank ≤ rank) :
      BestSoFar use (before ++ definition :: after) (some (rank, before.length, definition))

namespace BestSoFar

variable {best : Option (Int × ℕ × Definition)} {index : ℕ} {next : Definition}

/-- Nothing met so far ranks above the best. -/
theorem rank_le (h : BestSoFar use definitions (some (rank, index, definition)))
    (hmem : other ∈ definitions) (hother : rank? other use = some otherRank) :
      otherRank ≤ rank := by
  cases h with
  | found hrank hbefore hafter =>
    rcases List.mem_append.1 hmem with hmem | hmem
    · exact Int.le_of_lt (hbefore other hmem otherRank hother)
    · rcases List.mem_cons.1 hmem with rfl | hmem
      · rw [hrank] at hother
        exact Int.le_of_eq (Option.some.inj hother).symm
      · exact hafter other hmem otherRank hother

/-- A definition that does not rank above the best leaves it as it is. -/
theorem keep (h : BestSoFar use definitions (some (rank, index, definition)))
    (hnext : ∀ nextRank, rank? next use = some nextRank → nextRank ≤ rank) :
    BestSoFar use (definitions ++ [next]) (some (rank, index, definition)) := by
  cases h with
  | found hrank hbefore hafter =>
    rw [List.append_assoc, List.cons_append]
    refine .found hrank hbefore fun other hother => ?_
    rcases List.mem_append.1 hother with hother | hother
    · exact hafter other hother
    · rwa [List.mem_singleton.1 hother]

/-- A definition that ranks above all before it is the best. -/
theorem replace (hnext : rank? next use = some rank)
    (h : ∀ other ∈ definitions, ∀ otherRank, rank? other use = some otherRank → otherRank < rank) :
    BestSoFar use (definitions ++ [next]) (some (rank, definitions.length, next)) :=
  .found hnext h fun _ hother => absurd hother List.not_mem_nil

/-- One step of the search. -/
theorem step (h : BestSoFar use definitions best) (next : Definition) :
    BestSoFar use (definitions ++ [next]) (better use best (next, definitions.length)) := by
  unfold better
  cases hnext : rank? next use with
  | none =>
    cases best with
    | none =>
      obtain ⟨h⟩ := h
      refine .nothing fun other hother => ?_
      rcases List.mem_append.1 hother with hother | hother
      · exact h other hother
      · rwa [List.mem_singleton.1 hother]
    | some best => exact h.keep fun nextRank hrank => by simp [hnext] at hrank
  | some nextRank =>
    cases best with
    | none =>
      obtain ⟨h⟩ := h
      exact replace hnext fun other hother otherRank hrank => by simp [h other hother] at hrank
    | some best =>
      obtain ⟨rank, index, definition⟩ := best
      dsimp only
      split_ifs with hlt
      · exact replace hnext fun other hother otherRank hrank =>
          Int.lt_of_le_of_lt (h.rank_le hother hrank) hlt
      · refine h.keep fun otherRank hrank => ?_
        obtain rfl := Option.some.inj (hnext.symm.trans hrank)
        omega

end BestSoFar

/-- The whole search. -/
theorem bestSoFar_foldl (use : Use) (definitions : List Definition) :
    BestSoFar use definitions (definitions.zipIdx.foldl (better use) none) := by
  induction definitions using List.reverseRecOn with
  | nil => exact .nothing fun _ hother => absurd hother List.not_mem_nil
  | append_singleton definitions next ih =>
    rw [List.zipIdx_append, List.foldl_append]
    have hstep := ih.step next
    simpa using hstep

theorem bestDefinition?_eq_none_iff :
    bestDefinition? definitions use = none ↔
    ∀ definition ∈ definitions, ¬ Candidate use definition := by
  rw [bestDefinition?, Option.map_eq_none_iff]
  have hbest := bestSoFar_foldl use definitions
  generalize definitions.zipIdx.foldl (better use) none = best at hbest
  cases hbest with
  | nothing h => simpa using fun definition hmem => rank?_eq_none_iff.1 (h definition hmem)
  | found hrank =>
    simp only [reduceCtorEq, false_iff, not_forall, not_not]
    exact ⟨_, by simp, (rank?_eq_some_iff.1 hrank).1⟩

/-- **The search finds the first of the definitions of highest rank.** -/
theorem map_bestDefinition? (hlines : ∀ definition ∈ definitions, 0 ≤ definition.line) :
    (bestDefinition? definitions use).map (·.2) = (nearest definitions use).head? := by
  rw [bestDefinition?, Option.map_map, nearest, List.head?_filter]
  have hbest := bestSoFar_foldl use definitions
  generalize definitions.zipIdx.foldl (better use) none = best at hbest
  cases hbest with
  | nothing h =>
    refine (List.find?_eq_none.2 fun definition hmem hnearest => ?_).symm
    exact rank?_eq_none_iff.1 (h definition hmem) (decide_eq_true_iff.1 hnearest).1
  | @found before after definition rank hrank hbefore hafter =>
    have hdefinition : definition ∈ before ++ definition :: after := by simp
    have hbest : BestSoFar use (before ++ definition :: after)
        (some (rank, before.length, definition)) :=
      .found hrank hbefore hafter
    refine (List.find?_eq_some_iff_append.2 ⟨?_, before, after, rfl, fun other hother => ?_⟩).symm
    · refine decide_eq_true ⟨(rank?_eq_some_iff.1 hrank).1,
        fun other hother hcandidate houtranks => ?_⟩
      have hotherRank := rank?_eq_some_iff.2 ⟨hcandidate, rfl⟩
      have hlt := (outranks_iff_lt hotherRank hrank (hlines other hother)
        (hlines definition hdefinition)).1 houtranks
      exact absurd (hbest.rank_le hother hotherRank) (by omega)
    · -- an earlier candidate of the highest rank would not be outranked by the one that was found
      rw [Bool.not_eq_true', decide_eq_false_iff_not]
      rintro ⟨hcandidate, hunbeaten⟩
      have hotherRank := rank?_eq_some_iff.2 ⟨hcandidate, rfl⟩
      refine hunbeaten definition hdefinition (rank?_eq_some_iff.1 hrank).1 ?_
      exact (outranks_iff_lt hrank hotherRank (hlines definition hdefinition)
        (hlines other (List.mem_append_left _ hother))).2 (hbefore other hother _ hotherRank)

-- a definition on line `-1` of the file of the use does not rank above one in another file
example :
    bestDefinition?
        [{ name := "x", file := "b.kt", line := 9, scope := Scope.global, kind := .declaration },
         { name := "x", file := "a.kt", line := -1, scope := Scope.global, kind := .declaration }]
        { name := "x", file := "a.kt", line := 3, scope := Scope.global, kind := .computation } =
      some (0, { name := "x", file := "b.kt", line := 9, scope := Scope.global,
                 kind := .declaration }) := by
  decide

end BranchCover.DataFlow
