import BranchCover.Model.Basic
import BranchCover.Proofs.Text.Scan
import BranchCover.Proofs.Text.Sorted

/-!
# What the call graph counts

The graph of a list of calls has one edge for each caller and each name that it calls, with the
number of these calls and the line of the first. Only the lines depend on the order of the calls.

* `IsCallOf`: a call of a name by a caller.
* `edge?_addCall`, `edge?_ofCalls`: an edge behind one more call, and behind a list of calls.
* `isLastSegment_iff`: what stands behind the last point of a name.
* `mapping_congr`, `entryPoints_congr`: what depends on the joined names alone.
* `ofCalls_counts`: the graph of the calls of a model.
-/

namespace BranchCover

/-- The names that an edge joins. -/
def CallEdge.ends (edge : CallEdge) : String × String := (edge.caller, edge.callee)

namespace CallGraph

variable {graph other : CallGraph} {edge : CallEdge} {calls : List FunctionCall}
  {call : FunctionCall}
  {caller callee : String}

/-! ### Calls -/

/-- The name that a call is made under: the qualified name of its caller, or the caller's own where
that is empty. -/
def callerName (call : FunctionCall) : String :=
  if call.callerQualifiedName.getD "" = "" then call.caller.getD ""
    else call.callerQualifiedName.getD ""

/-- A call of a name by a caller, neither of which is empty. -/
structure IsCallOf (caller callee : String) (call : FunctionCall) : Prop where
  isKnown : call.caller.getD "" ≠ ""
  isNamed : call.name ≠ ""
  callerName_eq : callerName call = caller
  name_eq : call.name = callee

theorem isCallOf_iff : IsCallOf caller callee call ↔
    callerOf? call = some caller ∧ call.name = callee := by
  unfold callerOf?
  split_ifs with hunknown
  · refine iff_of_false (fun h => ?_) (by simp)
    exact hunknown.elim h.isKnown h.isNamed
  · obtain ⟨hknown, hnamed⟩ := not_or.1 hunknown
    constructor
    · rintro ⟨-, -, hcaller, hcallee⟩
      exact ⟨congrArg some hcaller, hcallee⟩
    · rintro ⟨hcaller, hcallee⟩
      exact ⟨hknown, hnamed, Option.some.inj hcaller, hcallee⟩

instance (caller callee : String) : DecidablePred (IsCallOf caller callee) :=
  fun _ => decidable_of_iff _ isCallOf_iff.symm

/-- The calls of a name by a caller, in order. -/
def callsOf (calls : List FunctionCall) (caller callee : String) : List FunctionCall :=
  calls.filter (IsCallOf caller callee ·)

/-- A name under which calls are made. -/
def IsCaller (calls : List FunctionCall) (caller : String) : Prop :=
  ∃ callee, ∃ call ∈ calls, IsCallOf caller callee call

theorem callsOf_concat (calls : List FunctionCall) (call : FunctionCall) (caller callee : String) :
    callsOf (calls ++ [call]) caller callee =
      callsOf calls caller callee ++ if IsCallOf caller callee call then [call] else [] := by
  by_cases h : IsCallOf caller callee call <;> simp [callsOf, h]

theorem callsOf_ne_nil_iff : callsOf calls caller callee ≠ [] ↔
    ∃ call ∈ calls, IsCallOf caller callee call := by
  simp [callsOf, List.filter_eq_nil_iff]

/-! ### Edges -/

/-- The edge from one name to another. -/
def edge? (graph : CallGraph) (caller callee : String) : Option CallEdge :=
  graph.find? (·.ends = (caller, callee))

theorem edge?_cons : edge? (edge :: graph) caller callee =
    if edge.ends = (caller, callee) then some edge else graph.edge? caller callee := by
  by_cases h : edge.ends = (caller, callee) <;> simp [edge?, h]

theorem ends_of_edge? (h : graph.edge? caller callee = some edge) :
    edge.ends = (caller, callee) := by
  simpa using List.find?_some h

theorem edge?_eq_some_iff (hgraph : (graph.map CallEdge.ends).Nodup) :
    graph.edge? caller callee = some edge ↔ edge ∈ graph ∧ edge.ends = (caller, callee) := by
  constructor
  · intro h
    exact ⟨List.mem_of_find?_eq_some h, ends_of_edge? h⟩
  · rintro ⟨hmem, hends⟩
    have hsome : (graph.edge? caller callee).isSome = true := by
      rw [edge?, List.find?_isSome]
      exact ⟨edge, hmem, by simpa using hends⟩
    obtain ⟨found, hfound⟩ := Option.isSome_iff_exists.1 hsome
    have hsame : found.ends = edge.ends := (ends_of_edge? hfound).trans hends.symm
    obtain rfl := List.inj_on_of_nodup_map hgraph (List.mem_of_find?_eq_some hfound) hmem hsame
    exact hfound

theorem mem_ends_iff : (caller, callee) ∈ graph.map CallEdge.ends ↔
    (graph.edge? caller callee).isSome = true := by
  rw [edge?, List.find?_isSome, List.mem_map]
  simp

/-- One more call is counted on its edge, which it adds if it is the first; the other edges stay as
they are. -/
theorem edge?_addCall (graph : CallGraph) (caller callee : String) (line : Option Int)
    (u v : String) :
    (graph.addCall caller callee line).edge? u v =
      if (caller, callee) = (u, v) then
        some ((graph.edge? u v).elim { caller, callee, count := 1, line } fun edge =>
          { edge with count := edge.count + 1 })
      else graph.edge? u v := by
  induction graph with
  | nil => exact edge?_cons
  | cons edge rest ih =>
    rw [addCall, edge?_cons]
    by_cases hedge : edge.caller = caller ∧ edge.callee = callee
    · have hends : edge.ends = (caller, callee) := Prod.ext hedge.1 hedge.2
      have hcounted : ({ edge with count := edge.count + 1 } : CallEdge).ends = (caller, callee) :=
        hends
      rw [if_pos hedge, edge?_cons, hcounted, hends]
      split_ifs <;> rfl
    · have hends : edge.ends ≠ (caller, callee) :=
        fun h => hedge ⟨congrArg Prod.fst h, congrArg Prod.snd h⟩
      rw [if_neg hedge, edge?_cons, ih]
      split_ifs with h hother
      · exact absurd (h.trans hother.symm) hends
      · rfl
      · rfl
      · rfl

/-- One more call joins its two names. -/
theorem ends_addCall (graph : CallGraph) (caller callee : String) (line : Option Int) :
    (graph.addCall caller callee line).map CallEdge.ends =
      if (caller, callee) ∈ graph.map CallEdge.ends then graph.map CallEdge.ends
      else graph.map CallEdge.ends ++ [(caller, callee)] := by
  induction graph with
  | nil => rfl
  | cons edge rest ih =>
    rw [addCall]
    by_cases hedge : edge.caller = caller ∧ edge.callee = callee
    · have hends : edge.ends = (caller, callee) := Prod.ext hedge.1 hedge.2
      rw [if_pos hedge, if_pos (by simp [hends])]
      rfl
    · have hends : (caller, callee) ≠ edge.ends :=
        fun h => hedge ⟨congrArg Prod.fst h.symm, congrArg Prod.snd h.symm⟩
      rw [if_neg hedge, List.map_cons, List.map_cons, ih]
      simp only [List.mem_cons, hends, false_or]
      split_ifs <;> rfl

theorem nodup_ends_addCall (h : (graph.map CallEdge.ends).Nodup) (caller callee : String)
    (line : Option Int) :
    ((graph.addCall caller callee line).map CallEdge.ends).Nodup := by
  rw [ends_addCall]
  split_ifs with hmem
  · exact h
  · exact h.append (List.nodup_singleton _) (List.disjoint_singleton.2 hmem)

/-! ### Graphs of calls -/

theorem ofCalls_concat (calls : List FunctionCall) (call : FunctionCall) :
    ofCalls (calls ++ [call]) = (ofCalls calls).add call := List.foldl_concat ..

theorem nodup_ends_ofCalls (calls : List FunctionCall) :
    ((ofCalls calls).map CallEdge.ends).Nodup := by
  induction calls using List.reverseRecOn with
  | nil => exact List.nodup_nil
  | append_singleton calls call ih =>
    rw [ofCalls_concat, add]
    split
    · exact nodup_ends_addCall ih _ _ _
    · exact ih

/-- **An edge of the graph counts the calls that it stands for, and has the line of the first.** -/
theorem edge?_ofCalls (calls : List FunctionCall) (caller callee : String) :
    (ofCalls calls).edge? caller callee = (callsOf calls caller callee).head?.map fun first =>
      { caller, callee, count := (callsOf calls caller callee).length,
        line := some first.line } := by
  induction calls using List.reverseRecOn with
  | nil => rfl
  | append_singleton calls call ih =>
    rw [ofCalls_concat, callsOf_concat, add]
    cases hcaller : callerOf? call with
    | none =>
      have hnot : ¬IsCallOf caller callee call := fun h => by
        rw [(isCallOf_iff.1 h).1] at hcaller
        cases hcaller
      rw [if_neg hnot, List.append_nil]
      exact ih
    | some made =>
      dsimp only
      rw [edge?_addCall, ih]
      by_cases h : (made, call.name) = (caller, callee)
      · obtain ⟨rfl, rfl⟩ := Prod.mk.inj h
        rw [if_pos rfl, if_pos (isCallOf_iff.2 ⟨hcaller, rfl⟩)]
        cases callsOf calls made call.name with
        | nil => rfl
        | cons first rest => simp
      · have hnot : ¬IsCallOf caller callee call := fun hcall => by
          obtain ⟨hmade, hname⟩ := isCallOf_iff.1 hcall
          exact h (Prod.ext (Option.some.inj (hcaller.symm.trans hmade)) hname)
        rw [if_neg h, if_neg hnot, List.append_nil]

theorem mem_ends_ofCalls_iff : (caller, callee) ∈ (ofCalls calls).map CallEdge.ends ↔
    ∃ call ∈ calls, IsCallOf caller callee call := by
  rw [mem_ends_iff, edge?_ofCalls, Option.isSome_map, List.isSome_head?, ← callsOf_ne_nil_iff]

/-- The edges of the graph are those of the calls. -/
theorem mem_ofCalls_iff : edge ∈ ofCalls calls ↔ ∃ first,
    (callsOf calls edge.caller edge.callee).head? = some first ∧
      edge.count = (callsOf calls edge.caller edge.callee).length ∧
      edge.line = some first.line := by
  have hedge : edge ∈ ofCalls calls ↔
      (ofCalls calls).edge? edge.caller edge.callee = some edge := by
    rw [edge?_eq_some_iff (nodup_ends_ofCalls calls), CallEdge.ends]
    exact (and_iff_left rfl).symm
  rw [hedge, edge?_ofCalls, Option.map_eq_some_iff]
  obtain ⟨caller, callee, count, line⟩ := edge
  simp [eq_comm]

/-! ### What is read from a graph -/

theorem mem_callees_iff : callee ∈ graph.callees caller ↔
    (caller, callee) ∈ graph.map CallEdge.ends := by
  simp [callees, CallEdge.ends, and_assoc]

theorem mem_callersOf_iff : caller ∈ graph.callersOf callee ↔
    (caller, callee) ∈ graph.map CallEdge.ends := by
  simp [callersOf, CallEdge.ends, and_assoc, and_comm]

theorem mem_callers_iff : caller ∈ graph.callers ↔
    ∃ callee, (caller, callee) ∈ graph.map CallEdge.ends := by
  simp [callers, CallEdge.ends]

theorem mem_mapping_iff {names : List String} :
    (caller, names) ∈ graph.mapping ↔ caller ∈ graph.callers ∧ names = graph.callees caller := by
  simp [mapping, eq_comm]

theorem map_fst_mapping (graph : CallGraph) : graph.mapping.map Prod.fst = graph.callers := by
  rw [mapping, List.map_map]
  exact List.map_id _

/-- What stands behind the last point of a name, or all of a name without points. -/
def IsLastSegment (name segment : String) : Prop :=
  '.' ∉ segment.toList ∧ (name = segment ∨ ∃ before, name = before ++ "." ++ segment)

theorem isLastSegment_iff {name segment : String} : IsLastSegment name segment ↔
    lastSegment name = segment := by
  have hlast : lastSegment name = segment ↔ Text.afterLast '.' name.toList = segment.toList := by
    rw [lastSegment, ← String.toList_inj, String.toList_ofList]
  have hbefore : (∃ before, name = before ++ "." ++ segment) ↔
      ∃ before, name.toList = before ++ '.' :: segment.toList := by
    constructor
    · rintro ⟨before, rfl⟩
      exact ⟨before.toList, by simp⟩
    · rintro ⟨before, htext⟩
      exact ⟨String.ofList before, by rw [← String.toList_inj, htext]; simp⟩
  rw [hlast, Text.afterLast_eq_iff, IsLastSegment, hbefore, String.toList_inj]

theorem mem_entryPoints_iff : caller ∈ graph.entryPoints ↔ caller ∈ graph.callers ∧
    ∀ pair ∈ graph.map CallEdge.ends, lastSegment pair.2 ≠ lastSegment caller := by
  simp [entryPoints, CallEdge.ends]

theorem pairwise_entryPoints (graph : CallGraph) : graph.entryPoints.Pairwise (· < ·) :=
  (Text.pairwise_sortedSet _).filter _

section Congr

variable (h : ∀ pair, pair ∈ graph.map CallEdge.ends ↔ pair ∈ other.map CallEdge.ends)

include h

theorem callers_congr : graph.callers = other.callers :=
  Text.eq_of_pairwise_lt (Text.pairwise_sortedSet _) (Text.pairwise_sortedSet _) fun _ => by
    simp only [mem_callers_iff, h]

theorem callees_congr (caller : String) : graph.callees caller = other.callees caller :=
  Text.eq_of_pairwise_lt (Text.pairwise_sortedSet _) (Text.pairwise_sortedSet _) fun _ => by
    simp only [mem_callees_iff, h]

/-- The mapping depends on the joined names alone. -/
theorem mapping_congr : graph.mapping = other.mapping := by
  rw [mapping, mapping, callers_congr h]
  exact List.map_congr_left fun caller _ => by rw [callees_congr h]

/-- The entry points depend on the joined names alone. -/
theorem entryPoints_congr : graph.entryPoints = other.entryPoints :=
  Text.eq_of_pairwise_lt (pairwise_entryPoints graph) (pairwise_entryPoints other) fun _ => by
    simp only [mem_entryPoints_iff, callers_congr h, h]

end Congr

/-! ### The graph of a model -/

theorem mem_callers_ofCalls_iff : caller ∈ (ofCalls calls).callers ↔ IsCaller calls caller := by
  simp only [mem_callers_iff, mem_ends_ofCalls_iff, IsCaller]

theorem mem_entryPoints_ofCalls_iff : caller ∈ (ofCalls calls).entryPoints ↔ IsCaller calls caller ∧
    ∀ call ∈ calls, ∀ u v, IsCallOf u v call → ∀ segment, IsLastSegment v segment →
      ¬IsLastSegment caller segment := by
  rw [mem_entryPoints_iff, mem_callers_ofCalls_iff]
  refine and_congr_right fun _ => ?_
  constructor
  · intro h call hcall u v hof segment hsegment hown
    refine h (u, v) (mem_ends_ofCalls_iff.2 ⟨call, hcall, hof⟩) ?_
    rw [isLastSegment_iff.1 hsegment, isLastSegment_iff.1 hown]
  · rintro h ⟨u, v⟩ hpair hsame
    obtain ⟨call, hcall, hof⟩ := mem_ends_ofCalls_iff.1 hpair
    exact h call hcall u v hof _ (isLastSegment_iff.2 hsame) (isLastSegment_iff.2 rfl)

/-- The count of an edge is the number of its calls, in whatever order they come. -/
theorem count_edge?_perm {other : List FunctionCall} (h : calls.Perm other)
    (caller callee : String) :
    ((ofCalls calls).edge? caller callee).map (·.count) =
      ((ofCalls other).edge? caller callee).map (·.count) := by
  have hperm : (callsOf calls caller callee).Perm (callsOf other caller callee) := h.filter _
  have hcount : ∀ calls, ((ofCalls calls).edge? caller callee).map (·.count) =
      if callsOf calls caller callee = [] then none
        else some (callsOf calls caller callee).length := fun calls => by
    rw [edge?_ofCalls]
    cases callsOf calls caller callee <;> rfl
  rw [hcount, hcount, hperm.length_eq]
  simp only [← List.length_eq_zero_iff, hperm.length_eq]

/-- **The call graph counts the calls of a model.** It has one edge for each caller and each name
that it calls, with the number of these calls and the line of the first. A name is among the callees
of a caller exactly if the caller is among the callers of the name. The keys of the mapping are the
callers, each with its callees. The entry points are the callers whose last segment is not that of
any called name, in order. The mapping, the counts and the entry points do not depend on the order
of the calls. -/
theorem ofCalls_counts (model : Model) :
    let graph := ofCalls model.calls
    ((graph.map CallEdge.ends).Nodup ∧ ∀ edge, edge ∈ graph ↔ ∃ first,
      (callsOf model.calls edge.caller edge.callee).head? = some first ∧
        edge.count = (callsOf model.calls edge.caller edge.callee).length ∧
        edge.line = some first.line) ∧
    (∀ u v, (v ∈ graph.callees u ↔ ∃ call ∈ model.calls, IsCallOf u v call) ∧
      (v ∈ graph.callees u ↔ u ∈ graph.callersOf v)) ∧
    ((graph.mapping.map Prod.fst).Pairwise (· < ·) ∧
      ∀ u names, (u, names) ∈ graph.mapping ↔ IsCaller model.calls u ∧ names = graph.callees u) ∧
    (graph.entryPoints.Pairwise (· < ·) ∧ ∀ u, u ∈ graph.entryPoints ↔ IsCaller model.calls u ∧
      ∀ call ∈ model.calls, ∀ w v, IsCallOf w v call →
        ∀ segment, IsLastSegment v segment → ¬IsLastSegment u segment) ∧
    ∀ permuted, permuted.Perm model.calls → (ofCalls permuted).mapping = graph.mapping ∧
      (ofCalls permuted).entryPoints = graph.entryPoints ∧
      ∀ u v, ((ofCalls permuted).edge? u v).map (·.count) = (graph.edge? u v).map (·.count) := by
  intro graph
  refine ⟨⟨nodup_ends_ofCalls _, fun edge => mem_ofCalls_iff⟩, fun u v => ⟨?_, ?_⟩,
    ⟨?_, fun u names => ?_⟩, ⟨pairwise_entryPoints _, fun u => mem_entryPoints_ofCalls_iff⟩,
    fun permuted hperm => ?_⟩
  · rw [mem_callees_iff, mem_ends_ofCalls_iff]
  · rw [mem_callees_iff, mem_callersOf_iff]
  · rw [map_fst_mapping]
    exact Text.pairwise_sortedSet _
  · rw [mem_mapping_iff, mem_callers_ofCalls_iff]
  · have hends : ∀ pair, pair ∈ (ofCalls permuted).map CallEdge.ends ↔
        pair ∈ graph.map CallEdge.ends := fun pair => by
      rw [mem_ends_ofCalls_iff, mem_ends_ofCalls_iff]
      simp only [hperm.mem_iff]
    exact ⟨mapping_congr hends, entryPoints_congr hends, count_edge?_perm hperm⟩

/-- Two calls of `save` by `A.run`, one of `log` by a function named like the first, and one by
nobody. -/
def demoCalls : List FunctionCall :=
  [{ name := "save", file := "a.kt", line := 3, scope := "method:A.run", caller := some "run",
     callerQualifiedName := some "A.run" },
   { name := "log", file := "a.kt", line := 5, scope := "function:save", caller := some "save" },
   { name := "main", file := "a.kt", line := 1, scope := "global" },
   { name := "save", file := "a.kt", line := 9, scope := "method:A.run", caller := some "run",
     callerQualifiedName := some "A.run" }]

/-- Read backwards, the calls give the same mapping and counts, but the edge to `save` has the line
of the other call. -/
theorem ofCalls_counts_backwards :
    demoCalls.reverse.Perm demoCalls ∧
      (ofCalls demoCalls.reverse).mapping = [("A.run", ["save"]), ("save", ["log"])] ∧
      (ofCalls demoCalls.reverse).entryPoints = ["A.run"] ∧
      ((ofCalls demoCalls.reverse).edge? "A.run" "save").map (·.count) = some 2 ∧
      (ofCalls demoCalls).edge? "A.run" "save" = some ⟨"A.run", "save", 2, some 3⟩ ∧
      (ofCalls demoCalls.reverse).edge? "A.run" "save" = some ⟨"A.run", "save", 2, some 9⟩ := by
  have hperm : demoCalls.reverse.Perm demoCalls := List.reverse_perm demoCalls
  obtain ⟨hmapping, hentry, hcount⟩ :=
    (ofCalls_counts { calls := demoCalls }).2.2.2.2 demoCalls.reverse hperm
  refine ⟨hperm, hmapping.trans ?_, hentry.trans ?_, (hcount "A.run" "save").trans ?_, ?_,
    ?_⟩ <;> decide

end CallGraph

end BranchCover
