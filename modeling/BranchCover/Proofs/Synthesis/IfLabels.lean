import BranchCover.Proofs.Plan.Assignments
import BranchCover.Proofs.Synthesis.Computation
import BranchCover.Proofs.Synthesis.TestValues

/-!
# Labels of the tests of an `if`

The name, the note and the assertions of a test tell the truths of the atoms under the values that
the test binds, not the truths that were planned. A value that was bound for one atom may be bound
again for another, so the truths are read off once all subjects are driven, and no two tests have
the same ones.

* `Labelled`: what the truths of a test say about it.
* `ifTest_labelled`: the test of one driven assignment.
* `ifTests_labelled`: all tests of an `if`.
-/

namespace BranchCover.Synthesis

/-- The atoms of a branch's condition. -/
def atomsOf (branch : Branch) : List Condition := Condition.decompose (branch.condition.getD "")

/-- The note of a test of a branch whose condition has an outcome. -/
def outcomeNote (branch : Branch) (outcome : Bool) : String :=
  "Testing branch coverage for condition: '" ++ branch.condition.getD "" ++ "' is "
    ++ if outcome then "TRUE" else "FALSE"

/-- The truths of the atoms of a branch that a test is labelled with. -/
structure Labelled (settings : SynthesisSettings) (target : Target) (branch : Branch)
    (test : TestCase) (truths : List Bool) : Prop where
  /-- There is one truth for each atom. -/
  length : truths.length = (atomsOf branch).length
  /-- An atom about a parameter has the truth that the values of the test give it. -/
  judged : ∀ (i : ℕ) (atom : Condition) (shape : AtomShape) (truth : Bool),
    (atomsOf branch)[i]? = some atom → AtomShape.of? atom.text = some shape →
    (∃ parameter ∈ target.function.parameters,
      parameter.isVariadic = false ∧ parameter.name = shape.subject) →
    test.truth? shape = .ok (some truth) → truths[i]? = some truth
  /-- The name marks the atoms that are false. -/
  named : test.name = target.testName ("When" ++ "And".intercalate
    (List.zipWith (fun atom truth => (if truth then "" else "Not") ++ methodName atom.text)
      (atomsOf branch) truths))
  /-- The note and the assertions are those of the outcome of the chain. -/
  evaluated : ∃ outcome, Condition.evaluate (atomsOf branch) truths = .ok outcome ∧
    test.notes = [outcomeNote branch outcome] ∧
    Oracle.forBranch settings.oracle target.function (atomsOf branch) (branch.condition.getD "")
      outcome test.values branch.body = .ok test.assertions

variable {settings : SynthesisSettings} {target : Target} {branch : Branch}

/-! ### One test -/

theorem length_of_drive {function : FunctionDecl} {conditions : List Condition}
    {assignment truths : List Bool} {values values' : Bindings}
    (hlength : assignment.length = conditions.length)
    (h : drive function conditions assignment values = .ok (values', truths)) :
    truths.length = conditions.length := by
  have hpairs := (drive_eq_ok_iff.1 h).2
  rw [actualTruths_eq_mapM, mapM_eq_ok_iff] at hpairs
  rw [← hpairs.length_eq, List.length_zip, shapesOf, List.length_map]
  omega

/-- The truth that driving gives an atom is the one under the final values. -/
theorem getElem?_of_drive {function : FunctionDecl} {conditions : List Condition}
    {assignment truths : List Bool} {values values' : Bindings}
    (hlength : assignment.length = conditions.length)
    (h : drive function conditions assignment values = .ok (values', truths)) {i : ℕ}
    {atom : Condition} {shape : AtomShape} {value : String} {truth : Bool}
    (hatom : conditions[i]? = some atom) (hshape : AtomShape.of? atom.text = some shape)
    (hsubject : (fixedParameter? function shape.subject).isSome = true)
    (hvalue : values'.get? shape.subject = some value)
    (hholds : Value.atomHolds shape value values' = .ok (some truth)) :
      truths[i]? = some truth := by
  have hpairs := (drive_eq_ok_iff.1 h).2
  rw [actualTruths_eq_mapM, mapM_eq_ok_iff] at hpairs
  obtain ⟨hi, rfl⟩ := List.getElem?_eq_some_iff.1 hatom
  have hassigned : i < assignment.length := by omega
  have hzip : i < ((shapesOf conditions).zip assignment).length := by
    rw [List.length_zip, shapesOf, List.length_map]
    omega
  have htruth : i < truths.length := hpairs.length_eq ▸ hzip
  have hactual := hpairs.get hzip htruth
  simp only [List.get_eq_getElem, List.getElem_zip, shapesOf, List.getElem_map, hshape] at hactual
  simp only [actualTruth, hsubject, if_true, hvalue, hholds] at hactual
  rw [List.getElem?_eq_getElem htruth]
  exact congrArg some (Except.ok.inj hactual).symm

/-- What a test of an `if` is made of. -/
theorem ifTest_eq_ok {conditions : List Condition} {truths : List Bool} {values : Bindings}
    {test : TestCase} (h : ifTest settings target branch conditions values truths = .ok test) :
    ∃ assertions,
      Oracle.forBranch settings.oracle target.function conditions (branch.condition.getD "")
        (Condition.outcome conditions truths) values branch.body = .ok assertions ∧
      test = target.testCase (target.testName ("When" ++ atomsName conditions truths))
        .branch values
        assertions [outcomeNote branch (Condition.outcome conditions truths)] := by
  obtain ⟨assertions, hassertions, h⟩ := bind_eq_ok_iff.1 h
  exact ⟨assertions, hassertions, (Except.ok.inj h).symm⟩

/-- The test of a driven assignment is labelled with the truths under its values. -/
theorem ifTest_labelled {assignment truths : List Bool} {values : Bindings} {test : TestCase}
    (hne : atomsOf branch ≠ []) (hlength : assignment.length = (atomsOf branch).length)
    (hdrive : drive target.function (atomsOf branch) assignment target.neutralValues
      = .ok (values, truths))
    (htest : ifTest settings target branch (atomsOf branch) values truths = .ok test) :
    Labelled settings target branch test truths := by
  have hvalues := drive_suitable (suitable_neutralValues target) hdrive
  have htruths := length_of_drive hlength hdrive
  obtain ⟨assertions, hassertions, rfl⟩ := ifTest_eq_ok htest
  refine ⟨htruths, ?_, rfl, ?_⟩
  · intro i atom shape truth hatom hshape hparameter hjudged
    have hsubject := isSome_fixedParameter?.2 hparameter
    obtain ⟨value, hvalue⟩ := Option.isSome_iff_exists.1
      ((hvalues.bound shape.subject).trans hsubject)
    rw [truth?_testCase hvalues hvalue] at hjudged
    exact getElem?_of_drive hlength hdrive hatom hshape hsubject hvalue hjudged
  · refine ⟨_, Condition.evaluate_eq hne htruths, rfl, ?_⟩
    rw [Oracle.forBranch_congr (get?_values_testCase hvalues _ _ _ _)]
    exact hassertions

/-! ### All tests -/

/-- The tests for planned assignments are labelled with different truths, none of them seen
before. -/
theorem ifTestsFor_labelled {seen : List (List Bool)} {combinations : List Combination}
    {tests : List TestCase} (hne : atomsOf branch ≠ [])
    (hfits : Plan.Fits (atomsOf branch) combinations)
    (h : ifTestsFor settings target branch (atomsOf branch) seen combinations = .ok tests) :
    ∃ vectors : List (List Bool), vectors.Nodup ∧ (∀ truths ∈ vectors, truths ∉ seen) ∧
      List.Forall₂ (Labelled settings target branch) tests vectors := by
  induction combinations generalizing seen tests with
  | nil =>
    obtain rfl := Except.ok.inj h
    exact ⟨[], List.nodup_nil, by simp, .nil⟩
  | cons combination rest ih =>
    have hrest : Plan.Fits (atomsOf branch) rest := fun other hother =>
      hfits other (List.mem_cons_of_mem _ hother)
    rw [ifTestsFor] at h
    obtain ⟨⟨values, truths⟩, hdrive, h⟩ := bind_eq_ok_iff.1 h
    dsimp only at h
    by_cases hseen : seen.contains truths = true
    · rw [if_pos hseen] at h
      exact ih hrest h
    · rw [if_neg hseen] at h
      obtain ⟨test, htest, h⟩ := bind_eq_ok_iff.1 h
      obtain ⟨others, hothers, h⟩ := bind_eq_ok_iff.1 h
      obtain rfl := Except.ok.inj h
      obtain ⟨vectors, hnodup, hnew, hall⟩ := ih hrest hothers
      have hlabel := ifTest_labelled hne (hfits combination List.mem_cons_self) hdrive htest
      refine ⟨truths :: vectors, ?_, ?_, .cons hlabel hall⟩
      · refine List.nodup_cons.2 ⟨fun hmem => ?_, hnodup⟩
        exact hnew truths hmem List.mem_cons_self
      · intro other hother
        rcases List.mem_cons.1 hother with rfl | hother
        · simpa using hseen
        · exact fun hmem => hnew other hother (List.mem_cons_of_mem _ hmem)

/-- The tests of an `if` are those for the planned assignments. -/
theorem ifTests_run (settings : SynthesisSettings) (target : Target) (hne : atomsOf branch ≠ [])
    (rng : Twister) :
    ∃ warnings, ifTests settings target branch rng =
      (ifTestsFor settings target branch (atomsOf branch) []
        (Plan.choose settings.planOptions (atomsOf branch) rng).1.combinations).map fun tests =>
          ({ tests, warnings }, (Plan.choose settings.planOptions (atomsOf branch) rng).2) := by
  have hempty : (Condition.decompose (branch.condition.getD "")).isEmpty = false := by
    simpa [atomsOf] using hne
  simp only [ifTests, hempty, Bool.false_eq_true, if_false, drawing_bind, checking_bind]
  exact ⟨_, bind_ok_eq_map _ _⟩

/-- **Each test of an `if` is labelled with the truths that its own values give the atoms, and no
two tests with the same ones.** -/
theorem ifTests_labelled {rng rng' : Twister} {result : SynthesisResult}
    (h : ifTests settings target branch rng = .ok (result, rng')) :
    ∃ vectors : List (List Bool), vectors.Nodup ∧
      List.Forall₂ (Labelled settings target branch) result.tests vectors := by
  by_cases hne : atomsOf branch = []
  · have hempty : (Condition.decompose (branch.condition.getD "")).isEmpty = true := by
      simpa [atomsOf] using hne
    simp only [ifTests, hempty, if_true] at h
    obtain ⟨rfl, -⟩ := Prod.mk.inj (Except.ok.inj h)
    exact ⟨[], List.nodup_nil, .nil⟩
  · obtain ⟨warnings, hrun⟩ := ifTests_run settings target hne rng
    rw [hrun] at h
    obtain ⟨tests, htests, hresult⟩ := map_eq_ok_iff.1 h
    obtain ⟨rfl, -⟩ := Prod.mk.inj hresult
    obtain ⟨vectors, hnodup, -, hall⟩ := ifTestsFor_labelled hne
      (Plan.fits_choose settings.planOptions (atomsOf branch) rng) htests
    exact ⟨vectors, hnodup, hall⟩

/-- A function `f` with the given parameters and an integral result. -/
def exampleTarget (parameters : List Parameter) : Target where
  function :=
    { name := "f", qualifiedName := "f", file := "a.kt", line := 1, endLine := 4, scope := "a.kt:f",
      returnType := "Int", parameters }
  owner := none
  setup := none
  variadic := []
  baseSymbols := []

/-- An `if` with a condition and a body. -/
def exampleIf (condition : String) (body : Option String) : Branch where
  id := 0
  kind := .ifBranch
  condition := some condition
  function := some "f"
  file := "a.kt"
  line := 2
  scope := "a.kt:f"
  body

/-- No value makes both atoms true, so the four assignments give three tests. -/
theorem ifTests_labelled_disjoint :
    ∃ result rng', ifTests {} (exampleTarget [{ name := "x", typeName := "Int" }])
        (exampleIf "x > 5 && x < 3" none) ⟨#[], 0⟩ = .ok (result, rng') ∧
      result.tests.map (·.name) =
        ["testFWhenNotX5AndNotX3", "testFWhenX5AndNotX3", "testFWhenNotX5AndX3"] ∧
      ∃ vectors : List (List Bool), vectors.Nodup ∧
        List.Forall₂ (Labelled {} (exampleTarget [{ name := "x", typeName := "Int" }])
          (exampleIf "x > 5 && x < 3" none)) result.tests vectors := by
  have hrun : (ifTests {} (exampleTarget [{ name := "x", typeName := "Int" }])
      (exampleIf "x > 5 && x < 3" none) ⟨#[], 0⟩).map (fun found => found.1.tests.map (·.name)) =
        .ok ["testFWhenNotX5AndNotX3", "testFWhenX5AndNotX3", "testFWhenNotX5AndX3"] := by
    decide +kernel
  obtain ⟨⟨result, rng'⟩, h, hnames⟩ := map_eq_ok_iff.1 hrun
  exact ⟨result, rng', h, hnames, ifTests_labelled h⟩

end BranchCover.Synthesis
