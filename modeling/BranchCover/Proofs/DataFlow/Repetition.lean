import BranchCover.Proofs.DataFlow.Firsts
import BranchCover.Proofs.DataFlow.Pairing

/-!
# Repeated uses

Leaving out the uses that repeat an earlier one at the same place changes nothing but how often
something is reported: what a use is read for has no part in which definition reaches it, nor in
what is reported of it.

* `exists_mem_dedupe_iff`: what holds of some use at a place holds of one that is kept.
* `analyze_dedupe`: the two analyses of a model compared.
-/

namespace BranchCover.DataFlow

section Uses

variable {definitions : List Definition} {uses : List Use} {use other : Use}

/-! ### Uses at the same place -/

theorem samePlace_iff :
    samePlace use other = true ↔ use.name = other.name ∧ use.file = other.file ∧
    use.line = other.line ∧
      use.scope = other.scope := by
  simp [samePlace, and_assoc]

theorem rank?_congr (h : samePlace use other = true) (definition : Definition) :
    rank? definition use = rank? definition other := by
  obtain ⟨hname, hfile, hline, hscope⟩ := samePlace_iff.1 h
  simp only [rank?, hname, hfile, hline, hscope]

/-- The same definition reaches all uses at one place. -/
theorem bestDefinition?_congr (h : samePlace use other = true) (definitions : List Definition) :
    bestDefinition? definitions use = bestDefinition? definitions other := by
  have hbetter : better use = better other := by
    funext best next
    simp only [better, rank?_congr h]
  rw [bestDefinition?, bestDefinition?, hbetter]

theorem useAnomaly_congr (h : samePlace use other = true) (kind : AnomalyKind)
    (description : String) :
    useAnomaly kind use description = useAnomaly kind other description := by
  obtain ⟨hname, hfile, hline, -⟩ := samePlace_iff.1 h
  simp only [useAnomaly, hname, hfile, hline]

theorem isUninitialized_congr (h : samePlace use other = true) (decls : List Variable)
    (definition : Definition) :
    isUninitialized decls { definition, use } =
      isUninitialized decls { definition, use := other } := by
  obtain ⟨-, -, hline, -⟩ := samePlace_iff.1 h
  simp only [isUninitialized, hline]

theorem dedupe_eq_firstsBy (uses : List Use) : dedupe uses = firstsBy samePlace uses := rfl

/-- What holds of all or none of the uses at a place holds of a use exactly if it holds of one that
is kept. -/
theorem exists_mem_dedupe_iff {property : Use → Prop}
    (hplace : ∀ use other, samePlace use other = true → (property use ↔ property other)) :
    (∃ use ∈ dedupe uses, property use) ↔ ∃ use ∈ uses, property use := by
  rw [dedupe_eq_firstsBy]
  constructor
  · rintro ⟨use, hmem, huse⟩
    exact ⟨use, (firstsBy_sublist _ uses).subset hmem, huse⟩
  · rintro ⟨use, hmem, huse⟩
    have hrefl : ∀ use, samePlace use use = true := fun _ => samePlace_iff.2 ⟨rfl, rfl, rfl, rfl⟩
    obtain ⟨other, hother, hsame⟩ := exists_mem_firstsBy hrefl hmem
    exact ⟨other, hother, (hplace use other hsame).1 huse⟩

theorem nodup_dedupe (uses : List Use) : (dedupe uses).Nodup := by
  rw [dedupe_eq_firstsBy]
  refine (pairwise_firstsBy _ uses).imp fun hne heq => ?_
  rw [heq, samePlace_iff.2 ⟨rfl, rfl, rfl, rfl⟩] at hne
  cases hne

/-! ### Pairs and anomalies of a list of uses -/

theorem mem_pairsOf_iff {index : ℕ} {pair : DefUsePair} :
    (index, pair) ∈ pairsOf (uses.map (pairingOf definitions)) ↔
      pair.use ∈ uses ∧ bestDefinition? definitions pair.use = some (index, pair.definition) := by
  rw [pairsOf_map_pairingOf, List.mem_filterMap]
  constructor
  · rintro ⟨use, hmem, hpair⟩
    obtain ⟨⟨_, definition⟩, hbest, heq⟩ := Option.map_eq_some_iff.1 hpair
    obtain ⟨rfl, rfl⟩ := Prod.mk.inj heq
    exact ⟨hmem, hbest⟩
  · rintro ⟨hmem, hbest⟩
    exact ⟨pair.use, hmem, by rw [hbest]; rfl⟩

/-- A use is paired as often as it occurs, or never. -/
theorem uses_pairsOf (definitions : List Definition) (uses : List Use) :
    (pairsOf (uses.map (pairingOf definitions))).map (·.2.use) =
      uses.filter fun use => (bestDefinition? definitions use).isSome := by
  rw [pairsOf_map_pairingOf, List.map_filterMap, ← List.filterMap_eq_filter]
  refine List.filterMap_congr fun use _ => ?_
  cases h : bestDefinition? definitions use <;> simp [Option.guard, h]

theorem mem_undefinedUses_iff {anomaly : Anomaly} :
    anomaly ∈ undefinedUses (undefinedOf (uses.map (pairingOf definitions))) ↔
      ∃ use ∈ uses, bestDefinition? definitions use = none ∧
        useAnomaly .undefinedUse use "is used before definition" = anomaly := by
  rw [undefinedOf_map_pairingOf, undefinedUses, List.mem_map]
  simp [and_assoc]

theorem mem_uninitializedUses_iff {decls : List Variable} {anomaly : Anomaly} :
    anomaly ∈ uninitializedUses decls (pairsOf (uses.map (pairingOf definitions))) ↔
      ∃ use ∈ uses, ∃ index definition, bestDefinition? definitions use = some (index, definition) ∧
        isUninitialized decls { definition, use } = true ∧
        useAnomaly .uninitializedUse use "might be used uninitialized" = anomaly := by
  rw [uninitializedUses, List.mem_map]
  constructor
  · rintro ⟨⟨index, definition, use⟩, hmem, heq⟩
    obtain ⟨hpair, hwithout⟩ := List.mem_filter.1 hmem
    obtain ⟨huse, hbest⟩ := mem_pairsOf_iff.1 hpair
    exact ⟨use, huse, index, definition, hbest, hwithout, heq⟩
  · rintro ⟨use, huse, index, definition, hbest, hwithout, heq⟩
    exact ⟨(index, { definition, use }),
      List.mem_filter.2 ⟨mem_pairsOf_iff.2 ⟨huse, hbest⟩, hwithout⟩, heq⟩

theorem any_pairsOf_iff {index : ℕ} :
    (pairsOf (uses.map (pairingOf definitions))).any (·.1 == index) = true ↔
      ∃ use ∈ uses, ∃ definition, bestDefinition? definitions use = some (index, definition) := by
  rw [List.any_eq_true]
  constructor
  · rintro ⟨⟨index', definition, use⟩, hmem, heq⟩
    obtain rfl := eq_of_beq heq
    obtain ⟨huse, hbest⟩ := mem_pairsOf_iff.1 hmem
    exact ⟨use, huse, definition, hbest⟩
  · rintro ⟨use, huse, definition, hbest⟩
    exact ⟨(index, { definition, use }), mem_pairsOf_iff.2 ⟨huse, hbest⟩, beq_self_eq_true index⟩

/-! ### The two analyses -/

/-- The same definitions reach some use, with and without the repetitions. -/
theorem unusedDefinitions_dedupe (definitions : List Definition) (uses : List Use) :
    unusedDefinitions definitions (pairsOf ((dedupe uses).map (pairingOf definitions))) =
      unusedDefinitions definitions (pairsOf (uses.map (pairingOf definitions))) := by
  have hsame : ∀ index,
      (pairsOf ((dedupe uses).map (pairingOf definitions))).any (·.1 == index) =
        (pairsOf (uses.map (pairingOf definitions))).any (·.1 == index) := by
    intro index
    rw [Bool.eq_iff_iff, any_pairsOf_iff, any_pairsOf_iff]
    refine exists_mem_dedupe_iff fun use other hplace => ?_
    rw [bestDefinition?_congr hplace]
  simp only [unusedDefinitions, hsame]

theorem mem_undefinedUses_dedupe {anomaly : Anomaly} :
    anomaly ∈ undefinedUses (undefinedOf ((dedupe uses).map (pairingOf definitions))) ↔
      anomaly ∈ undefinedUses (undefinedOf (uses.map (pairingOf definitions))) := by
  rw [mem_undefinedUses_iff, mem_undefinedUses_iff]
  refine exists_mem_dedupe_iff fun use other hplace => ?_
  rw [bestDefinition?_congr hplace, useAnomaly_congr hplace]

theorem mem_uninitializedUses_dedupe {decls : List Variable} {anomaly : Anomaly} :
    anomaly ∈ uninitializedUses decls (pairsOf ((dedupe uses).map (pairingOf definitions))) ↔
      anomaly ∈ uninitializedUses decls (pairsOf (uses.map (pairingOf definitions))) := by
  rw [mem_uninitializedUses_iff, mem_uninitializedUses_iff]
  refine exists_mem_dedupe_iff fun use other hplace => ?_
  simp only [bestDefinition?_congr hplace, useAnomaly_congr hplace, isUninitialized_congr hplace]

/-- Different uses are each paired once at most. -/
theorem redundantDefinitions_of_nodup (h : uses.Nodup) :
    redundantDefinitions (pairsOf (uses.map (pairingOf definitions))) = [] := by
  have hcount : ∀ use, ((pairsOf (uses.map (pairingOf definitions))).map (·.2.use)).count use ≤
      1 := by
    rw [uses_pairsOf]
    exact List.nodup_iff_count_le_one.1 (h.filter _)
  rw [redundantDefinitions, List.map_eq_nil_iff, List.filter_eq_nil_iff]
  intro use _
  simpa using hcount use

/-- The paired uses that occur more than once, each at its first occurrence. -/
def repeatedUses (definitions : List Definition) (uses : List Use) : List Use :=
  (firsts ((pairsOf (uses.map (pairingOf definitions))).map (·.2.use))).filter (1 < uses.count ·)

theorem nodup_repeatedUses (definitions : List Definition) (uses : List Use) :
    (repeatedUses definitions uses).Nodup := (nodup_firsts _).filter _

theorem mem_repeatedUses :
    use ∈ repeatedUses definitions uses ↔
      (∃ pair ∈ (pairsOf (uses.map (pairingOf definitions))).map (·.2), pair.use = use) ∧
        1 < uses.count use := by
  have hmap : (pairsOf (uses.map (pairingOf definitions))).map (·.2.use) =
      ((pairsOf (uses.map (pairingOf definitions))).map (·.2)).map (·.use) := by simp
  rw [repeatedUses, List.mem_filter, mem_firsts, hmap, List.mem_map, decide_eq_true_iff]

/-- The paired uses that are reported as repeated, with how often they occur. -/
theorem redundantDefinitions_eq (definitions : List Definition) (uses : List Use) :
    redundantDefinitions (pairsOf (uses.map (pairingOf definitions))) =
      (repeatedUses definitions uses).map fun use =>
        useAnomaly .redundantDefinition use
          ("has " ++ toString (uses.count use) ++ " definitions before this use") := by
  -- a use that is paired is paired at each of its occurrences
  have hcount : ∀ use ∈ firsts ((pairsOf (uses.map (pairingOf definitions))).map (·.2.use)),
      ((pairsOf (uses.map (pairingOf definitions))).map (·.2.use)).count use = uses.count use := by
    intro use hmem
    rw [mem_firsts] at hmem
    rw [uses_pairsOf] at hmem ⊢
    exact List.count_filter (List.mem_filter.1 hmem).2
  unfold redundantDefinitions repeatedUses
  dsimp only
  rw [List.filter_congr fun use hmem => by rw [hcount use hmem]]
  refine List.map_congr_left fun use hmem => ?_
  rw [hcount use (List.mem_of_mem_filter hmem)]

end Uses

theorem pairings_true (model : Model) :
    pairings model true = (dedupe (analyze model false).uses).map (pairingOf (definitions model)) :=
  rfl

theorem pairings_false (model : Model) :
    pairings model false = (analyze model false).uses.map (pairingOf (definitions model)) := rfl

/-- **Leaving out repeated uses changes only how often something is reported.** The unused
definitions are the same, and so are the undefined uses and the uses without a value, up to
repetitions. A use that is paired is reported as repeated exactly if it is kept more than once, with
how often. -/
theorem analyze_dedupe (model : Model) :
    (analyze model true).definitions = (analyze model false).definitions ∧
      (analyze model true).callGraph = (analyze model false).callGraph ∧
      (analyze model true).anomaliesOf .unusedDefinition =
        (analyze model false).anomaliesOf .unusedDefinition ∧
      (∀ anomaly, anomaly ∈ (analyze model true).anomaliesOf .undefinedUse ↔
        anomaly ∈ (analyze model false).anomaliesOf .undefinedUse) ∧
      (∀ anomaly, anomaly ∈ (analyze model true).anomaliesOf .uninitializedUse ↔
        anomaly ∈ (analyze model false).anomaliesOf .uninitializedUse) ∧
      (analyze model true).anomaliesOf .redundantDefinition = [] ∧
      ∃ repeated : List Use, repeated.Nodup ∧
        (∀ use, use ∈ repeated ↔ (∃ pair ∈ (analyze model false).pairs, pair.use = use) ∧
          1 < (analyze model false).uses.count use) ∧
        (analyze model false).anomaliesOf .redundantDefinition = repeated.map fun use =>
          useAnomaly .redundantDefinition use
            ("has " ++ toString ((analyze model false).uses.count use)
              ++ " definitions before this use") := by
  simp only [anomaliesOf_analyze, pairings_true, pairings_false]
  refine ⟨rfl, rfl, unusedDefinitions_dedupe _ _, fun _ => mem_undefinedUses_dedupe,
    fun _ => mem_uninitializedUses_dedupe, redundantDefinitions_of_nodup (nodup_dedupe _),
    repeatedUses (definitions model) (analyze model false).uses, nodup_repeatedUses _ _,
    fun _ => mem_repeatedUses, redundantDefinitions_eq _ _⟩

end BranchCover.DataFlow
