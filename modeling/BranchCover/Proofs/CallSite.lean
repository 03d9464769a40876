import BranchCover.CallSite
import BranchCover.Proofs.ArgumentList

/-!
# Arguments for a variadic parameter

The arguments of a call are recorded one by one, and are taken apart once more when they are looked
up. An argument with a comma behind a closed text, such as the one in the type arguments of a call
or in a literal inside of a template, becomes several, and those behind it move.

* `examples_ofModel_eq_iff`: when the argument lists are the recorded ones.
* `variadicTail?_ofModel`: the arguments of the first call that is long enough.
-/

namespace BranchCover

/-- The calls of a name. -/
def Model.callsOf (model : Model) (callee : String) : List FunctionCall :=
  model.calls.filter (·.name == callee)

namespace CallSites

open ArgumentList (Recorded Whole)

variable {model : Model} {callee : String}

theorem examples_ofModel : (ofModel model).examples callee =
    (model.callsOf callee).map fun call => call.arguments.flatMap ArgumentList.split := by
  simp [ofModel, ofCalls, examples, Model.callsOf, List.filter_map, Function.comp_def]

/-- **The argument lists are the recorded ones exactly if every argument is whole.** -/
theorem examples_ofModel_eq_iff
    (hrecorded : ∀ call ∈ model.callsOf callee, ∀ argument ∈ call.arguments, Recorded argument) :
    (ofModel model).examples callee = (model.callsOf callee).map (·.arguments) ↔
      ∀ call ∈ model.callsOf callee, ∀ argument ∈ call.arguments, Whole argument.toList := by
  rw [examples_ofModel, List.map_inj_left]
  exact forall₂_congr fun call hcall =>
    ArgumentList.flatMap_split_eq_self_iff (hrecorded call hcall)

/-- The first argument list that is long enough. -/
theorem variadicTail?_eq {sites : CallSites} {earlier later : List (List String)}
    {arguments : List String}
    {before after : Int} (hsites : sites.examples callee = earlier ++ arguments :: later)
    (hlong : before + after < arguments.length)
    (hearlier : ∀ other ∈ earlier, (other.length : Int) ≤ before + after) :
    sites.variadicTail? callee before after =
      some (Place.slice arguments before (arguments.length - after)) := by
  have hfirst : (sites.examples callee).find? (fun arguments => before + after < arguments.length) =
      some arguments := by
    refine List.find?_eq_some_iff_append.2 ⟨by simpa using hlong, earlier, later, hsites,
      fun other hother => ?_⟩
    simpa using hearlier other hother
  rw [variadicTail?, hfirst, Option.map_some]

theorem variadicTail?_eq_none_iff {sites : CallSites} {before after : Int} :
    sites.variadicTail? callee before after = none ↔
      ∀ arguments ∈ sites.examples callee, (arguments.length : Int) ≤ before + after := by
  simp [variadicTail?]

theorem slice_zero_length (members : List α) : Place.slice members 0 members.length = members := by
  have hend : ¬(members.length : Int) < 0 := Int.not_lt.2 (Int.natCast_nonneg _)
  simp [Place.slice, Place.before, hend]

/-- **The arguments for a variadic parameter are those of a call, if every argument is whole.**
Every argument of the calls of a name is recorded without blanks around it, and is not blank. If
every one of them is whole, there are no arguments for the parameter exactly if no call has more
than the parameters around it take; else they are those of the first such call between its first and
last ones. Of the first call that has arguments at all, all are found exactly if every one of them
is whole. -/
theorem variadicTail?_ofModel
    (hrecorded : ∀ call ∈ model.callsOf callee, ∀ argument ∈ call.arguments, Recorded argument) :
    ((∀ call ∈ model.callsOf callee, ∀ argument ∈ call.arguments, Whole argument.toList) →
      ∀ before after : Int,
      ((ofModel model).variadicTail? callee before after = none ↔
        ∀ call ∈ model.callsOf callee, (call.arguments.length : Int) ≤ before + after) ∧
      ∀ earlier call later, model.callsOf callee = earlier ++ call :: later →
        before + after < call.arguments.length →
        (∀ other ∈ earlier, (other.arguments.length : Int) ≤ before + after) →
        (ofModel model).variadicTail? callee before after =
          some (Place.slice call.arguments before (call.arguments.length - after))) ∧
    ∀ earlier call later, model.callsOf callee = earlier ++ call :: later → call.arguments ≠ [] →
      (∀ other ∈ earlier, other.arguments = []) →
      ((ofModel model).variadicTail? callee 0 0 = some call.arguments ↔
        ∀ argument ∈ call.arguments, Whole argument.toList) := by
  refine ⟨fun hwhole before after => ?_, fun earlier call later hcalls hne hearlier => ?_⟩
  · have hexamples := (examples_ofModel_eq_iff hrecorded).2 hwhole
    refine ⟨?_, fun earlier call later hcalls hlong hearlier => ?_⟩
    · rw [variadicTail?_eq_none_iff, hexamples, List.forall_mem_map]
    · have hsites : (ofModel model).examples callee =
          earlier.map (·.arguments) ++ call.arguments :: later.map (·.arguments) := by
        rw [hexamples, hcalls, List.map_append, List.map_cons]
      exact variadicTail?_eq hsites hlong (List.forall_mem_map.2 hearlier)
  · have hcall : call ∈ model.callsOf callee := by simp [hcalls]
    have hlength := ArgumentList.length_le_length_flatMap_split (hrecorded call hcall)
    have hpos := List.length_pos_iff.2 hne
    have htail : (ofModel model).variadicTail? callee 0 0 =
        some (call.arguments.flatMap ArgumentList.split) := by
      have hexamples : (ofModel model).examples callee = _ := examples_ofModel
      rw [hcalls, List.map_append, List.map_cons] at hexamples
      rw [variadicTail?_eq hexamples (by omega), Int.sub_zero, slice_zero_length]
      refine List.forall_mem_map.2 fun other hother => ?_
      rw [hearlier other hother]
      simp
    rw [htail, Option.some.injEq, ArgumentList.flatMap_split_eq_self_iff (hrecorded call hcall)]

/-- A call of `f`. -/
def callOf (arguments : List String) : FunctionCall where
  name := "f"
  file := "a.kt"
  line := 1
  scope := "global"
  arguments := arguments

/-- A call with commas in brackets and in a literal, behind one that is too short; and one with a
comma in type arguments. -/
theorem variadicTail?_ofModel_nested :
    (ofModel { calls := [callOf ["1"], callOf ["1", "listOf(2, 3)", "\"a,b\""]] }).variadicTail?
      "f" 1 0 =
        some ["listOf(2, 3)", "\"a,b\""] ∧
      (ofModel { calls := [callOf ["mapOf<String, Int>()"]] }).variadicTail? "f" 0 0 ≠
        some ["mapOf<String, Int>()"] := by
  let first := callOf ["1"]
  let second := callOf ["1", "listOf(2, 3)", "\"a,b\""]
  let typed := callOf ["mapOf<String, Int>()"]
  have hnested := (variadicTail?_ofModel (show ∀ call ∈
    ({ calls := [first, second] } : Model).callsOf "f",
    ∀ argument ∈ call.arguments, Recorded argument by decide)).1 (by decide) 1 0
  have htyped := (variadicTail?_ofModel (show ∀ call ∈ ({ calls := [typed] } : Model).callsOf "f",
    ∀ argument ∈ call.arguments, Recorded argument by
      decide)).2 [] typed [] rfl (by decide) (by simp)
  exact ⟨hnested.2 [first] second [] rfl (by decide) (by decide), mt htyped.1 (by decide)⟩

/-- The argument `"${g("a,b")}"` is one literal, and is taken apart inside of its template. -/
theorem variadicTail?_template :
    (∀ argument ∈ (callOf ["1", "\"$\x7bg(\"a,b\")\x7d\""]).arguments, Recorded argument) ∧
      (ofModel { calls := [callOf ["1", "\"$\x7bg(\"a,b\")\x7d\""]] }).variadicTail? "f" 1 0 =
        some ["\"$\x7bg(\"a", "b\")\x7d\""] ∧
      ["\"$\x7bg(\"a", "b\")\x7d\""] ≠ Place.slice ["1", "\"$\x7bg(\"a,b\")\x7d\""] 1 2 := by
  decide

end CallSites

end BranchCover
