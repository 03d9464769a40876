import BranchCover.Proofs.Oracle.Simulation
import BranchCover.Proofs.Synthesis.Drive

/-!
# The values that a test binds

A test carries the values of its parameters, and the truth of an atom can be judged from the test
alone: what the test binds is what the atoms were driven to.

* `TestCase.values`: the values of the parameters that are not variadic.
* `TestCase.truth?`: the truth of an atom under these values.
* `get?_values_testCase`: a test binds the values that it was made with.
-/

namespace BranchCover

/-- The values that a test binds to the parameters that are not variadic. -/
def TestCase.values (test : TestCase) : Bindings :=
  (test.bindings.filter (!·.isVariadic)).map fun binding => (binding.name, binding.value)

/-- The truth of an atom under the values that a test binds, if they tell it. -/
def TestCase.truth? (test : TestCase) (shape : AtomShape) : Except Number.Error (Option Bool) :=
  match test.values.get? shape.subject with
  | some value => Value.atomHolds shape value test.values
  | none => .ok none

namespace Synthesis

variable {target : Target} {values : Bindings}

theorem filter_bindingsFrom (place : ℕ) (parameters : List Parameter) :
    ((target.bindingsFrom values place parameters).filter (!·.isVariadic)).map
        (fun binding => (binding.name, binding.value)) =
      (Target.fixedParameters parameters).map fun parameter =>
        (parameter.name, (values.get? parameter.name).getD "") := by
  induction parameters generalizing place with
  | nil => rfl
  | cons parameter rest ih =>
    rw [Target.bindingsFrom, Target.fixedParameters, List.filter_cons, List.filter_cons]
    cases hvariadic : parameter.isVariadic with
    | true => exact ih (place + 1)
    | false =>
      simp only [Bool.not_false, if_true, List.map_cons]
      rw [ih (place + 1), Target.fixedParameters]
      rfl

/-- A variadic parameter is bound to the values that all tests of its function share. -/
theorem values_of_isVariadic (name : String) (kind : TestKind) (assertions : List Assertion)
    (notes : List String) {place : ℕ} {parameter : Parameter}
    (hparameter : target.function.parameters[place]? = some parameter)
    (hvariadic : parameter.isVariadic = true) :
    (target.testCase name kind values assertions notes).bindings[place]?.map (·.values)
      = some (target.variadicValues place) := by
  have hfrom : ∀ (parameters : List Parameter) (start i : ℕ), parameters[i]? = some parameter →
      (target.bindingsFrom values start parameters)[i]?.map (·.values)
        = some (target.variadicValues (start + i)) := by
    intro parameters
    induction parameters with
    | nil => simp
    | cons first rest ih =>
      intro start i hi
      cases i with
      | zero =>
        obtain rfl : first = parameter := by simpa using hi
        simp [Target.bindingsFrom, hvariadic]
      | succ i =>
        have hrest := ih (start + 1) i (by simpa using hi)
        rw [Nat.add_assoc, Nat.add_comm 1 i] at hrest
        simpa [Target.bindingsFrom] using hrest
  have hall := hfrom target.function.parameters 0 place hparameter
  rw [Nat.zero_add] at hall
  exact hall

/-- A test binds the values that it was made with, if they are those of the parameters. -/
theorem get?_values_of_bound
    (hvalues : ∀ name, (values.get? name).isSome = (fixedParameter? target.function name).isSome)
    (name : String)
    (kind : TestKind) (assertions : List Assertion) (notes : List String) (other : String) :
    (target.testCase name kind values assertions notes).values.get? other = values.get? other := by
  have hlist : (target.testCase name kind values assertions notes).values =
      (Target.fixedParameters target.function.parameters).map fun parameter =>
        (parameter.name, (values.get? parameter.name).getD "") :=
    filter_bindingsFrom 0 target.function.parameters
  rw [hlist, Bindings.get?, List.find?_map, Option.map_map]
  have hbound := hvalues other
  cases hfound : (Target.fixedParameters target.function.parameters).find?
      ((fun pair : String × String => pair.1 == other) ∘ fun parameter =>
        (parameter.name, (values.get? parameter.name).getD "")) with
  | some parameter =>
    have hname : parameter.name = other := by simpa using List.find?_some hfound
    have hmem := List.mem_filter.1 (List.mem_of_find?_eq_some hfound)
    rw [isSome_fixedParameter?.2 ⟨parameter, hmem.1, by simpa using hmem.2, hname⟩] at hbound
    obtain ⟨value, hvalue⟩ := Option.isSome_iff_exists.1 hbound
    simp [hname, hvalue]
  | none =>
    have hnone : (fixedParameter? target.function other).isSome = false := by
      refine Bool.eq_false_iff.2 fun hsome => ?_
      obtain ⟨parameter, hmem, hfixed, hname⟩ := isSome_fixedParameter?.1 hsome
      have hnot := List.find?_eq_none.1 hfound parameter
        (List.mem_filter.2 ⟨hmem, by simpa using hfixed⟩)
      exact hnot (by simpa using hname)
    rw [hnone, Option.isSome_eq_false_iff, Option.isNone_iff_eq_none] at hbound
    rw [hbound]
    rfl

/-- A test binds the values that it was made with. -/
theorem get?_values_testCase (hvalues : Suitable target.function values) (name : String)
    (kind : TestKind) (assertions : List Assertion) (notes : List String) (other : String) :
    (target.testCase name kind values assertions notes).values.get? other = values.get? other :=
  get?_values_of_bound hvalues.bound name kind assertions notes other

/-- The truth of an atom about a parameter, as the values of a test tell it. -/
theorem truth?_testCase (hvalues : Suitable target.function values) {name : String}
    {kind : TestKind}
    {assertions : List Assertion} {notes : List String} {shape : AtomShape} {value : String}
    (hvalue : values.get? shape.subject = some value) :
    (target.testCase name kind values assertions notes).truth? shape =
      Value.atomHolds shape value values := by
  unfold TestCase.truth?
  rw [get?_values_testCase hvalues, hvalue]
  exact Value.atomHolds_congr fun operand => get?_values_testCase hvalues _ _ _ _ operand

end Synthesis

end BranchCover
