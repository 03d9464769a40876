import BranchCover.Proofs.DataFlow.Reaching
import Mathlib.Data.List.Basic

/-!
# Pairs and undefined uses

Each use of a model is paired with the definition that reaches it, or else reported as undefined, in
the order of the uses.

* `anomaliesOf_analyze`: each kind of anomalies is found by a pass of its own.
* `analyze_pairing`: the pairs and the undefined uses of a model.
-/

namespace BranchCover.DataFlow

/-! ### Pairings -/

section Pairings

variable (definitions : List Definition) (uses : List Use)

theorem pairsOf_map_pairingOf :
    pairsOf (uses.map (pairingOf definitions)) =
      uses.filterMap fun use =>
        (bestDefinition? definitions use).map fun best =>
          (best.1, { definition := best.2, use }) := by
  rw [pairsOf, List.filterMap_map]
  refine List.filterMap_congr fun use _ => ?_
  simp only [Function.comp_apply, pairingOf]
  cases bestDefinition? definitions use <;> rfl

theorem undefinedOf_map_pairingOf :
    undefinedOf (uses.map (pairingOf definitions)) =
      uses.filter fun use => bestDefinition? definitions use = none := by
  rw [undefinedOf, List.filterMap_map, ← List.filterMap_eq_filter]
  refine List.filterMap_congr fun use _ => ?_
  simp only [Function.comp_apply, pairingOf]
  cases h : bestDefinition? definitions use <;> simp [Option.guard, h]

end Pairings

/-! ### Kinds of anomalies -/

/-- The anomalies of a kind. -/
def Result.anomaliesOf (result : Result) (kind : AnomalyKind) : List Anomaly :=
  result.anomalies.filter (·.kind = kind)

theorem filter_kind {anomalies : List Anomaly} {kind : AnomalyKind}
    (h : ∀ anomaly ∈ anomalies, anomaly.kind = kind) (asked : AnomalyKind) :
    anomalies.filter (·.kind = asked) = if kind = asked then anomalies else [] := by
  split_ifs with hkind
  · refine List.filter_eq_self.2 fun anomaly hmem => ?_
    simp [h anomaly hmem, hkind]
  · refine List.filter_eq_nil_iff.2 fun anomaly hmem => ?_
    simp [h anomaly hmem, hkind]

/-- The pairings of the uses of a model. -/
def pairings (model : Model) (dedupeUses : Bool) : List Pairing :=
  (analyze model dedupeUses).uses.map (pairingOf (definitions model))

theorem definitions_analyze (model : Model) (dedupeUses : Bool) :
    (analyze model dedupeUses).definitions = definitions model := rfl

theorem pairs_analyze (model : Model) (dedupeUses : Bool) :
    (analyze model dedupeUses).pairs = (pairsOf (pairings model dedupeUses)).map (·.2) := rfl

theorem anomalies_analyze (model : Model) (dedupeUses : Bool) :
    (analyze model dedupeUses).anomalies =
      undefinedUses (undefinedOf (pairings model dedupeUses))
        ++ unusedDefinitions (definitions model) (pairsOf (pairings model dedupeUses))
        ++ redundantDefinitions (pairsOf (pairings model dedupeUses))
        ++ uninitializedUses model.variableDecls (pairsOf (pairings model dedupeUses)) := rfl

/-- Each kind of anomalies is found by a pass of its own. -/
theorem anomaliesOf_analyze (model : Model) (dedupeUses : Bool) (kind : AnomalyKind) :
    (analyze model dedupeUses).anomaliesOf kind =
      match kind with
      | .undefinedUse => undefinedUses (undefinedOf (pairings model dedupeUses))
      | .unusedDefinition => unusedDefinitions (definitions model)
          (pairsOf (pairings model dedupeUses))
      | .redundantDefinition => redundantDefinitions (pairsOf (pairings model dedupeUses))
      | .uninitializedUse =>
        uninitializedUses model.variableDecls (pairsOf (pairings model dedupeUses)) := by
  have hundefined : ∀ anomaly ∈ undefinedUses (undefinedOf (pairings model dedupeUses)),
      anomaly.kind = .undefinedUse := List.forall_mem_map.2 fun _ _ => rfl
  have hunused : ∀ anomaly ∈ unusedDefinitions (definitions model) (pairsOf
    (pairings model dedupeUses)),
      anomaly.kind = .unusedDefinition := List.forall_mem_map.2 fun _ _ => rfl
  have hredundant : ∀ anomaly ∈ redundantDefinitions (pairsOf (pairings model dedupeUses)),
      anomaly.kind = .redundantDefinition := List.forall_mem_map.2 fun _ _ => rfl
  have huninitialized :
      ∀ anomaly ∈ uninitializedUses model.variableDecls (pairsOf (pairings model dedupeUses)),
      anomaly.kind = .uninitializedUse := List.forall_mem_map.2 fun _ _ => rfl
  rw [Result.anomaliesOf, anomalies_analyze, List.filter_append, List.filter_append,
    List.filter_append, filter_kind hundefined, filter_kind hunused, filter_kind hredundant,
    filter_kind huninitialized]
  cases kind <;> simp

/-! ### Pairs and undefined uses -/

/-- No variable, function or loop of a model is on a negative line. -/
structure LinesNonnegative (model : Model) : Prop where
  variableDecls : ∀ declared ∈ model.variableDecls, 0 ≤ declared.line
  functions : ∀ function ∈ model.functions, 0 ≤ function.line
  loops : ∀ loop ∈ model.loops, 0 ≤ loop.line

/-- The definitions stand on the lines of the variables, functions and loops. -/
theorem LinesNonnegative.definitions {model : Model} (h : LinesNonnegative model) :
    ∀ definition ∈ definitions model, 0 ≤ definition.line := by
  intro definition hmem
  rcases List.mem_append.1 hmem with hmem | hmem
  · rcases List.mem_append.1 hmem with hmem | hmem
    · obtain ⟨index, hindex, rfl⟩ := List.mem_mapIdx.1 hmem
      exact h.variableDecls _ (List.getElem_mem hindex)
    · obtain ⟨function, hfunction, hmem⟩ := List.mem_flatMap.1 hmem
      obtain ⟨parameter, -, rfl⟩ := List.mem_map.1 hmem
      exact h.functions function hfunction
  · obtain ⟨loop, hloop, hmem⟩ := List.mem_flatMap.1 hmem
    unfold loopDefinition at hmem
    split_ifs at hmem
    · obtain rfl := List.mem_singleton.1 hmem
      exact h.loops loop hloop
    · cases hmem

/-- **Each use is paired with the first of the definitions of highest rank that can reach it, or is
reported as undefined if there are none.** -/
theorem analyze_pairing (model : Model) (dedupeUses : Bool) (hlines : LinesNonnegative model) :
    (analyze model dedupeUses).pairs =
        ((analyze model dedupeUses).uses.filterMap fun use =>
          (nearest (analyze model dedupeUses).definitions use).head?.map fun definition =>
            { definition, use }) ∧
      (analyze model dedupeUses).anomaliesOf .undefinedUse =
        ((analyze model dedupeUses).uses.filter fun use =>
          ∀ definition ∈ (analyze model dedupeUses).definitions, ¬ Candidate use definition).map
            (useAnomaly .undefinedUse · "is used before definition") ∧
      ∀ use, nearest (analyze model dedupeUses).definitions use = [] ↔
        ∀ definition ∈ (analyze model dedupeUses).definitions, ¬ Candidate use definition := by
  have hbest : ∀ use, (bestDefinition? (definitions model) use).map (·.2) =
      (nearest (definitions model) use).head? := fun use => map_bestDefinition? hlines.definitions
  rw [definitions_analyze]
  refine ⟨?_, ?_, fun use => ?_⟩
  · rw [pairs_analyze, pairings, pairsOf_map_pairingOf, List.map_filterMap]
    refine List.filterMap_congr fun use _ => ?_
    rw [← hbest, Option.map_map, Option.map_map]
    rfl
  · rw [anomaliesOf_analyze]
    simp only [pairings, undefinedOf_map_pairingOf, bestDefinition?_eq_none_iff]
    rfl
  · rw [← List.head?_eq_none_iff, ← hbest, Option.map_eq_none_iff, bestDefinition?_eq_none_iff]

/-- A variable on a line of a file, outside every class and function. -/
def globalVariable (name file : String) (line : Int) : Variable where
  name
  typeName := none
  line
  file
  scope := Scope.global

/-- Three definitions of `x`, one of them in another file, and one of `y` behind its only use. -/
def redefinedModel : Model where
  variableDecls := [globalVariable "x" "b.kt" 9, globalVariable "x" "a.kt" 1,
    globalVariable "x" "a.kt" 2, globalVariable "y" "a.kt" 4]
  references := [{ name := "x", file := "a.kt", line := 3, scope := Scope.global },
    { name := "y", file := "a.kt", line := 3, scope := Scope.global }]

/-- The use of `x` is paired with the last definition before it in its file, and that of `y` is
undefined. -/
theorem analyze_pairing_redefined :
    LinesNonnegative redefinedModel ∧
      (analyze redefinedModel true).pairs.map
        (fun pair => (pair.name, pair.definition.file, pair.definition.line)) = [("x", "a.kt", 2)] ∧
      ((analyze redefinedModel true).anomaliesOf .undefinedUse).map (·.name) = ["y"] := by
  have hlines : LinesNonnegative redefinedModel := ⟨by decide, by decide, by decide⟩
  obtain ⟨hpairs, hundefined, -⟩ := analyze_pairing redefinedModel true hlines
  rw [hpairs, hundefined]
  exact ⟨hlines, by decide, by decide⟩

end BranchCover.DataFlow
