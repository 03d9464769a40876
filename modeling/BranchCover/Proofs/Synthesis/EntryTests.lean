import BranchCover.Proofs.Plan.Assignments
import BranchCover.Proofs.Synthesis.Picking
import BranchCover.Proofs.Synthesis.Run

/-!
# Entries of a `when` without a subject

The test of an entry is driven to the first planned assignment that makes its first case true.
Whether the entry is taken depends on the values that this picks for the subjects of the case, and
on nothing else.

* `unreachedWarning`: what is recorded for an entry that no planned assignment makes true.
* `caseTests_of_notMem`: the test of an entry for which it is not recorded.
* `Judges`: the truth of an atom can be told from a test.
* `entryTest_taken`: when the test of an entry takes it.
-/

namespace BranchCover.Synthesis

variable {settings : SynthesisSettings} {model : Model} {target : Target} {parent entry : Branch}
  {rng rng' : Twister} {result part : SynthesisResult} {test : TestCase}
  {planned truths : List Bool}

/-! ### Tests by their places -/

/-- Where each step gives one test, the test of a step stands in its place, and the steps before it
have moved the generator. -/
theorem step_of_getElem?_runAll {α : Type} {step : α → SynthesisM SynthesisResult}
    {next : α → Twister → Twister}
    {l : List α}
    (hsingle : ∀ a ∈ l, ∀ rng part rng', step a rng = .ok (part, rng') →
      (∃ test, part.tests = [test]) ∧ rng' = next a rng)
    (h : runAll step l rng = .ok (result, rng')) {i : ℕ} {a : α} (ha : l[i]? = some a) :
    ∃ part after test, step a ((l.take i).foldl (fun rng a => next a rng) rng) = .ok (part, after) ∧
      part.tests = [test] ∧ result.tests[i]? = some test ∧ part.warnings ⊆ result.warnings := by
  induction l generalizing i rng result with
  | nil => simp at ha
  | cons first rest ih =>
    obtain ⟨part, between, others, hfirst, hothers, rfl⟩ := runAll_cons_eq_ok_iff.1 h
    obtain ⟨⟨made, hmade⟩, rfl⟩ := hsingle first List.mem_cons_self rng part between hfirst
    cases i with
    | zero =>
      obtain rfl : first = a := by simpa using ha
      refine ⟨part, _, made, hfirst, hmade, ?_, List.subset_append_left _ _⟩
      simp [SynthesisResult.append, hmade]
    | succ i =>
      have hrest : rest[i]? = some a := by simpa using ha
      obtain ⟨found, after, test, hstep, htest, hplace, hwarnings⟩ :=
        ih (fun other hother => hsingle other (List.mem_cons_of_mem first hother)) hothers hrest
      refine ⟨found, after, test, hstep, htest, ?_,
        List.Subset.trans hwarnings (List.subset_append_right _ _)⟩
      simpa [SynthesisResult.append, hmade] using hplace

/-- The generator when the test of the entry in a place is made. -/
def generatorAt (settings : SynthesisSettings) (written : List Branch) (i : ℕ) (rng : Twister) :
    Twister :=
  (written.take i).foldl (fun rng entry => afterEntry settings entry rng) rng

/-- The driven atoms of the first case of an entry, with planned truths. -/
def entryAtoms (target : Target) (entry : Branch) (planned : List Bool) : List (AtomShape × Bool) :=
  drivenAtoms target.function (shapesOf (firstCase entry)) planned

/-- What is recorded for an entry that no planned assignment makes true. -/
def unreachedWarning (target : Target) (entry : Branch) : Warning where
  kind := .coverageSearchExhausted
  message := "Could not make '" ++ entry.condition.getD "" ++ "' true in " ++ target.function.name
  file := some entry.file
  line := some entry.line

/-- A planned assignment makes the case of its entry true. -/
theorem evaluate_chosenAssignment (h : chosenAssignment settings entry rng = some planned) :
    planned.length = (firstCase entry).length ∧
    Condition.evaluate (firstCase entry) planned = .ok true := by
  unfold chosenAssignment at h
  split_ifs at h with hempty
  have hne : firstCase entry ≠ [] := by simpa using hempty
  obtain ⟨chosen, hfind, rfl⟩ := Option.map_eq_some_iff.1 h
  have hmem := List.mem_of_find?_eq_some hfind
  have hlength := Plan.fits_choose _ _ _ chosen hmem
  have houtcome : chosen.outcome = true := List.find?_some hfind
  rw [Plan.outcome_of_mem_choose hmem] at houtcome
  exact ⟨hlength, by rw [Condition.evaluate_eq hne hlength, houtcome]⟩

/-- Where no warning is recorded for an entry, its test has the values to which a planned assignment
drives. -/
theorem caseTests_of_notMem (hne : firstCase entry ≠ [])
    (h : caseTests settings target entry rng = .ok (part, rng'))
    (hwarned : unreachedWarning target entry ∉ part.warnings) (htest : part.tests = [test]) :
    ∃ planned values truths, chosenAssignment settings entry rng = some planned ∧
      drive target.function (firstCase entry) planned target.neutralValues = .ok (values, truths) ∧
      caseTest settings target entry values = .ok test := by
  have hempty : (firstCase entry).isEmpty = false := by simpa using hne
  simp only [caseTests, hempty, Bool.false_eq_true, if_false, drawing_bind] at h
  simp only [chosenAssignment, hempty, Bool.false_eq_true, if_false]
  cases hfind : (Plan.choose settings.planOptions (firstCase entry) rng).1.combinations.find?
    (·.outcome) with
  | none =>
    simp only [hfind, checking_bind] at h
    obtain ⟨made, -, h⟩ := bind_eq_ok_iff.1 h
    obtain ⟨rfl, -⟩ := Prod.mk.inj (Except.ok.inj h)
    exact absurd (List.mem_singleton_self _) hwarned
  | some chosen =>
    simp only [hfind, checking_bind] at h
    obtain ⟨⟨values, truths⟩, hdrive, h⟩ := bind_eq_ok_iff.1 h
    obtain ⟨made, hmade, h⟩ := bind_eq_ok_iff.1 h
    obtain ⟨rfl, -⟩ := Prod.mk.inj (Except.ok.inj h)
    obtain rfl : made = test := by simpa using htest
    exact ⟨chosen.assignment, values, truths, rfl, hdrive, hmade⟩

/-! ### Truths of a test -/

/-- An atom is about a parameter, and a test tells its truth. -/
def Judges (function : FunctionDecl) (test : TestCase) (atom : Condition) (truth : Bool) : Prop :=
  ∃ shape, AtomShape.of? atom.text = some shape ∧
    (fixedParameter? function shape.subject).isSome = true ∧
    test.truth? shape = .ok (some truth)

variable {function : FunctionDecl} {conditions : List Condition}

theorem drivenAtoms_cons {shape : AtomShape} (truth : Bool) (shapes : List (Option AtomShape))
    (assignment : List Bool) (hfixed : (fixedParameter? function shape.subject).isSome = true) :
    drivenAtoms function (some shape :: shapes) (truth :: assignment) =
      (shape, truth) :: drivenAtoms function shapes assignment := by
  simp [drivenAtoms, hfixed]

/-- The truths of a test are the planned ones exactly if each driven atom has its planned truth. -/
theorem truths_eq_iff (h : List.Forall₂ (Judges function test) conditions truths)
    (hlength : planned.length = conditions.length) :
    truths = planned ↔ ∀ atom ∈ drivenAtoms function (shapesOf conditions) planned,
      test.truth? atom.1 = .ok (some atom.2) := by
  induction h generalizing planned with
  | nil =>
    obtain rfl := List.length_eq_zero_iff.1 hlength
    exact iff_of_true rfl (by simp [drivenAtoms])
  | @cons atom truth conditions truths hjudges _ ih =>
    obtain ⟨shape, hshape, hfixed, htruth⟩ := hjudges
    cases planned with
    | nil => simp at hlength
    | cons first rest =>
      have hrest : rest.length = conditions.length := by simpa using hlength
      rw [shapesOf, List.map_cons, hshape, drivenAtoms_cons _ _ _ hfixed, List.forall_mem_cons]
      rw [List.cons.injEq, ih hrest, htruth]
      simp [shapesOf]

/-- A test that judges all atoms tells the truth of each driven one. -/
theorem told_of_judges (h : List.Forall₂ (Judges function test) conditions truths)
    {atom : AtomShape × Bool}
    (hatom : atom ∈ drivenAtoms function (shapesOf conditions) planned) :
    ∃ truth, test.truth? atom.1 = .ok (some truth) := by
  induction h generalizing planned with
  | nil => simp [drivenAtoms, shapesOf] at hatom
  | @cons first truth conditions truths hjudges _ ih =>
    obtain ⟨shape, hshape, hfixed, htruth⟩ := hjudges
    cases planned with
    | nil => simp [drivenAtoms] at hatom
    | cons wanted rest =>
      rw [shapesOf, List.map_cons, hshape, drivenAtoms_cons _ _ _ hfixed] at hatom
      rcases List.mem_cons.1 hatom with rfl | hatom
      · exact ⟨truth, htruth⟩
      · exact ih hatom

/-- The test of an entry binds what is picked for the subjects of its first case. -/
theorem pickedFor_caseTest {values : Bindings}
    (hdrive : drive target.function (firstCase entry) planned target.neutralValues =
      .ok (values, truths))
    (htest : caseTest settings target entry values = .ok test) {atom : AtomShape × Bool}
    (hatom : atom ∈ entryAtoms target entry planned) :
    PickedFor target.function (entryAtoms target entry planned) target.neutralValues test.values
      atom.1.subject := by
  have hvalues := drive_suitable (suitable_neutralValues target) hdrive
  rw [caseTest_eq] at htest
  obtain ⟨assertions, -, rfl⟩ := map_eq_ok_iff.1 htest
  exact (drive_pickedFor hdrive hatom).congr fun name =>
    (get?_values_testCase hvalues _ _ _ _ name).symm

/-! ### Entries that are taken -/

/-- **The test of an entry of a `when` without a subject, unless a warning is recorded for the
entry, binds each subject of the first case to what is picked for it under a planned assignment that
makes the case true. If no atom compares with a subject that is bound later, the test gives the
atoms their planned truths exactly if each subject is offered a value that suits all atoms about it;
then the entry is taken.** -/
theorem entryTest_taken {i : ℕ} (hkind : parent.kind = .when)
    (hsubject : parent.condition.getD "" = "")
    (h : branchTests settings model target parent rng = .ok (result, rng'))
    (hentry : ((model.entriesFor parent).filter (!·.isCatchAll))[i]? = some entry)
    (htest : result.tests[i]? = some test)
    (hwarned : unreachedWarning target entry ∉ result.warnings)
    (hne : firstCase entry ≠ [])
    (hjudges : List.Forall₂ (Judges target.function test) (firstCase entry) truths) :
    ∃ planned, chosenAssignment settings entry
        (generatorAt settings ((model.entriesFor parent).filter (!·.isCatchAll)) i rng) =
          some planned ∧
      Condition.evaluate (firstCase entry) planned = .ok true ∧
      let driven := entryAtoms target entry planned
      (∀ atom ∈ driven, PickedFor target.function driven target.neutralValues test.values
        atom.1.subject) ∧
      (ComparesBack driven →
        (truths = planned ↔ ∀ atom ∈ driven,
          Offered target.function driven test.values atom.1.subject) ∧
        ((∀ atom ∈ driven, Offered target.function driven test.values atom.1.subject) →
          Condition.evaluate (firstCase entry) truths = .ok true)) := by
  have hentries : model.entriesFor parent ≠ [] :=
    List.ne_nil_of_mem (List.mem_filter.1 (List.mem_of_getElem? hentry)).1
  rw [branchTests_eq_whenTests hkind hentries, if_pos hsubject] at h
  obtain ⟨cases, last, hcases, -, rfl⟩ := subjectlessWhenTests_eq_ok h
  have hsingle : ∀ entry ∈ (model.entriesFor parent).filter (!·.isCatchAll), ∀ rng part rng',
      caseTests settings target entry rng = .ok (part, rng') →
        (∃ test, part.tests = [test]) ∧ rng' = afterEntry settings entry rng := by
    intro entry _ rng part rng' hpart
    obtain ⟨_, test, -, htests⟩ := tests_caseTests hpart
    exact ⟨⟨test, htests⟩, (caseTests_labels hpart).2⟩
  obtain ⟨part, after, made, hpart, hmade, hplace, hwarnings⟩ :=
    step_of_getElem?_runAll hsingle hcases hentry
  obtain rfl : made = test := by
    have hlt := (List.getElem?_eq_some_iff.1 hplace).1
    rw [SynthesisResult.append, List.getElem?_append_left hlt, hplace] at htest
    exact Option.some.inj htest
  have hunreached : unreachedWarning target entry ∉ part.warnings := fun hmem =>
    hwarned (List.mem_append_left _ (hwarnings hmem))
  obtain ⟨planned, values, reached, hchosen, hdrive, hcase⟩ :=
    caseTests_of_notMem hne hpart hunreached hmade
  obtain ⟨hlength, htrue⟩ := evaluate_chosenAssignment hchosen
  have hpicked : ∀ atom ∈ entryAtoms target entry planned, PickedFor target.function
      (entryAtoms target entry planned) target.neutralValues made.values atom.1.subject :=
    fun atom hatom => pickedFor_caseTest hdrive hcase hatom
  refine ⟨planned, hchosen, htrue, hpicked, fun hback => ?_⟩
  have hiff : truths = planned ↔ ∀ atom ∈ entryAtoms target entry planned,
      Offered target.function (entryAtoms target entry planned) made.values atom.1.subject :=
    (truths_eq_iff hjudges hlength).trans
      (reaches_iff_offered hpicked hback fun atom hatom => told_of_judges hjudges hatom)
  refine ⟨hiff, fun hoffered => ?_⟩
  rw [hiff.2 hoffered, htrue]

/-- A `when` without a subject. -/
def subjectlessWhen : Branch := { exampleWhen with condition := none }

/-- A model with this `when`, whose entries have the given conditions. -/
def subjectlessModel (conditions : List String) : Model where
  branches := subjectlessWhen :: (whenModel conditions).branches.tail

/-- The entry of such a `when` with a number and a condition. -/
def conditionEntry (id : Int) (condition : String) : Branch :=
  { exampleIf condition none with id, kind := .whenEntry, parentId := some 0 }

/-- The kinds and the values of the tests of such a `when`, and the warnings. -/
def subjectlessRun (conditions : List String) :
    Except Number.Error (List (TestKind × Bindings) × List Warning) :=
  (branchTests {} (subjectlessModel conditions) subjectTarget subjectlessWhen ⟨#[], 0⟩).map
    fun found =>
    (found.1.tests.map fun test => (test.kind, test.values), found.1.warnings)

theorem exists_test_of_subjectlessRun {conditions : List String}
    {tests : List (TestKind × Bindings)}
    (h : subjectlessRun conditions = .ok (tests, [])) {i : ℕ} {kind : TestKind} {values : Bindings}
    (hvalues : tests[i]? = some (kind, values)) :
    ∃ result rng' test, branchTests {} (subjectlessModel conditions) subjectTarget subjectlessWhen
      ⟨#[], 0⟩
        = .ok (result, rng') ∧ result.warnings = [] ∧ result.tests[i]? = some test ∧
        test.kind = kind ∧
      test.values = values := by
  obtain ⟨⟨result, rng'⟩, hrun, hfound⟩ := map_eq_ok_iff.1 h
  obtain ⟨rfl, hwarnings⟩ := Prod.mk.inj hfound
  rw [List.getElem?_map] at hvalues
  obtain ⟨test, htest, hsame⟩ := Option.map_eq_some_iff.1 hvalues
  obtain ⟨rfl, rfl⟩ := Prod.mk.inj hsame
  exact ⟨result, rng', test, hrun, hwarnings, htest, rfl, rfl⟩

/-- A comparison of `x` with a literal is judged by a test that binds `x`. -/
theorem judges_of_values {test : TestCase} {atom : Condition} (shape : AtomShape) {truth : Bool}
    {values : Bindings}
    (hvalues : test.values = values) (hshape : AtomShape.of? atom.text = some shape)
    (hfixed : (fixedParameter? function shape.subject).isSome = true)
    (htruth : boundTruth? values shape = .ok (some truth)) : Judges function test atom truth := by
  subst hvalues
  exact ⟨shape, hshape, hfixed, htruth⟩

/-- The shape of a comparison of `x` with a literal. -/
def comparesX (operator : Comparator) (operand : String) : AtomShape :=
  .comparison "x" (some operator) (some operand)

/-- Of 6 and 9, which are offered for `x > 5 && x < 10`, the first suits both atoms, and the entry
is taken. -/
theorem entryTest_taken_between :
    ∃ result rng' test, branchTests {} (subjectlessModel ["x > 5 && x < 10", "else"]) subjectTarget
      subjectlessWhen
        ⟨#[], 0⟩ = .ok (result, rng') ∧
      ((subjectlessModel ["x > 5 && x < 10", "else"]).entriesFor subjectlessWhen).filter
      (!·.isCatchAll)
        = [conditionEntry 1 "x > 5 && x < 10"] ∧
      result.tests[0]? = some test ∧ result.warnings = [] ∧
      firstCase (conditionEntry 1 "x > 5 && x < 10") ≠ [] ∧
      List.Forall₂ (Judges subjectTarget.function test)
        (firstCase (conditionEntry 1 "x > 5 && x < 10")) [true, true] ∧
      (∀ atom ∈ [(comparesX .greater "5", true), (comparesX .less "10", true)],
        Offered subjectTarget.function [(comparesX .greater "5", true),
          (comparesX .less "10", true)] test.values
          atom.1.subject) ∧
      Condition.evaluate (firstCase (conditionEntry 1 "x > 5 && x < 10")) [true, true] =
        .ok true := by
  have hrun : subjectlessRun ["x > 5 && x < 10", "else"] =
      .ok ([(.whenEntry, [("x", "6")]), (.whenElse, [("x", "4")])], []) := by decide +kernel
  obtain ⟨result, rng', test, h, hwarnings, htest, -, hvalues⟩ :=
    exists_test_of_subjectlessRun hrun (i := 0) rfl
  have hentries : ((subjectlessModel ["x > 5 && x < 10", "else"]).entriesFor subjectlessWhen).filter
    (!·.isCatchAll)
      = [conditionEntry 1 "x > 5 && x < 10"] := by decide +kernel
  have hcase : firstCase (conditionEntry 1 "x > 5 && x < 10")
      = [{ text := "x > 5" }, { text := "x < 10", connective := .and }] := by decide +kernel
  have hne : firstCase (conditionEntry 1 "x > 5 && x < 10") ≠ [] := by
    rw [hcase]
    exact List.cons_ne_nil _ _
  have hjudges : List.Forall₂ (Judges subjectTarget.function test)
    (firstCase (conditionEntry 1 "x > 5 && x < 10"))
      [true, true] := by
    rw [hcase]
    refine .cons ?_ (.cons ?_ .nil)
    · exact judges_of_values (comparesX .greater "5") hvalues (by decide +kernel)
        (by decide +kernel)
        (by decide +kernel)
    · exact judges_of_values (comparesX .less "10") hvalues (by decide +kernel) (by decide +kernel)
        (by decide +kernel)
  have hdriven : entryAtoms subjectTarget (conditionEntry 1 "x > 5 && x < 10") [true, true]
      = [(comparesX .greater "5", true), (comparesX .less "10", true)] := by decide +kernel
  obtain ⟨planned, hchosen, -, hall⟩ :=
    entryTest_taken rfl rfl h (i := 0) (by rw [hentries]; rfl) htest
    (by rw [hwarnings]; exact List.not_mem_nil) hne hjudges
  obtain rfl : [true, true] = planned := by
    -- an exhaustive plan draws nothing
    rw [chosenAssignment, hcase] at hchosen
    exact Option.some.inj hchosen
  rw [hdriven] at hall
  obtain ⟨hiff, htaken⟩ := hall.2 (comparesBack_of_notMem (by decide +kernel))
  exact ⟨result, rng', test, h, hentries, htest, hwarnings, hne, hjudges, hiff.1 rfl,
    htaken (hiff.1 rfl)⟩

/-- Of 11 and 4, which are offered for `x > 10 || x > 5`, neither suits both atoms, and `x` is bound
to 4. The entry is missed, although 11 takes it. -/
theorem entryTest_missed :
    ∃ result rng' test, branchTests {} (subjectlessModel ["x > 10 || x > 5", "else"]) subjectTarget
      subjectlessWhen
        ⟨#[], 0⟩ = .ok (result, rng') ∧
      ((subjectlessModel ["x > 10 || x > 5", "else"]).entriesFor subjectlessWhen).filter
      (!·.isCatchAll)
        = [conditionEntry 1 "x > 10 || x > 5"] ∧
      result.tests[0]? = some test ∧ result.warnings = [] ∧
      List.Forall₂ (Judges subjectTarget.function test)
        (firstCase (conditionEntry 1 "x > 10 || x > 5")) [false, false] ∧
      Condition.evaluate (firstCase (conditionEntry 1 "x > 10 || x > 5")) [false, false] =
        .ok false ∧
      boundTruth? [("x", "11")] (comparesX .greater "10") = .ok (some true) ∧
      boundTruth? [("x", "11")] (comparesX .greater "5") = .ok (some true) ∧
      Condition.evaluate (firstCase (conditionEntry 1 "x > 10 || x > 5")) [true, true] =
        .ok true := by
  have hrun : subjectlessRun ["x > 10 || x > 5", "else"] =
      .ok ([(.whenEntry, [("x", "4")]), (.whenElse, [("x", "9")])], []) := by decide +kernel
  obtain ⟨result, rng', test, h, hwarnings, htest, -, hvalues⟩ :=
    exists_test_of_subjectlessRun hrun (i := 0) rfl
  have hcase : firstCase (conditionEntry 1 "x > 10 || x > 5")
      = [{ text := "x > 10" }, { text := "x > 5", connective := .or }] := by decide +kernel
  rw [hcase]
  refine ⟨result, rng', test, h, by decide +kernel, htest, hwarnings, .cons ?_ (.cons ?_ .nil),
    by decide, by decide +kernel, by decide +kernel, by decide⟩
  · exact judges_of_values (comparesX .greater "10") hvalues (by decide +kernel) (by decide +kernel)
      (by decide +kernel)
  · exact judges_of_values (comparesX .greater "5") hvalues (by decide +kernel) (by decide +kernel)
      (by decide +kernel)

end BranchCover.Synthesis
