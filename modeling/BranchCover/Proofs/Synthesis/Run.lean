import BranchCover.Proofs.Synthesis.WhenCoverage

/-!
# Whole runs of the synthesis

A run goes over the functions of a model, over the branches of a function and over the entries of a
`when`, and puts what each step gives behind what is there. So the tests of a run are the tests of
its steps: one that only calls its function for each testable function, and those of its branches.

* `runAll`: the results of several steps as one.
* `exists_step_of_mem_runAll`, `exists_step_runAll`: the tests of a run are those of its steps.
* `BranchTest`: what a test of a branch was made from.
* `IsTarget`: what all tests of a function share.
* `exists_origin_of_mem_synthesize`, `exists_target_synthesize`: the tests of a model, from both
  sides.
-/

namespace BranchCover.Synthesis

/-! ### Steps one after another -/

/-- What a step gives on each member of a list, one after another. -/
def runAll {α : Type} (step : α → SynthesisM SynthesisResult) : List α → SynthesisM SynthesisResult
  | [] => pure {}
  | a :: rest => do
    let first ← step a
    let others ← runAll step rest
    return first.append others

variable {settings : SynthesisSettings} {model : Model} {target : Target}

theorem allCaseTests_eq_runAll (entries : List Branch) :
    allCaseTests settings target entries = runAll (caseTests settings target) entries := by
  induction entries with
  | nil => rfl
  | cons entry rest ih => rw [allCaseTests, runAll, ih]

theorem allBranchTests_eq_runAll (branches : List Branch) :
    allBranchTests settings model target branches =
      runAll (branchTests settings model target) branches := by
  induction branches with
  | nil => rfl
  | cons branch rest ih => rw [allBranchTests, runAll, ih]

theorem allTests_eq_runAll {sites : CallSites} (functions : List FunctionDecl) :
    allTests settings model sites functions =
      runAll (functionTests settings model sites) functions := by
  induction functions with
  | nil => rfl
  | cons function rest ih => rw [allTests, runAll, ih]

section
variable {α : Type} {step : α → SynthesisM SynthesisResult} {a : α} {rest : List α}
  {rng rng' : Twister}
  {result : SynthesisResult} {test : TestCase}

theorem runAll_cons_eq_ok_iff :
    runAll step (a :: rest) rng = .ok (result, rng') ↔
      ∃ first between others, step a rng = .ok (first, between) ∧
        runAll step rest between = .ok (others, rng') ∧ first.append others = result := by
  rw [runAll, bind_run, bind_eq_ok_iff]
  constructor
  · rintro ⟨⟨first, between⟩, hfirst, h⟩
    rw [bind_run] at h
    obtain ⟨⟨others, after⟩, hothers, h⟩ := bind_eq_ok_iff.1 h
    obtain ⟨rfl, rfl⟩ := Prod.mk.inj (Except.ok.inj h)
    exact ⟨first, between, others, hfirst, hothers, rfl⟩
  · rintro ⟨first, between, others, hfirst, hothers, rfl⟩
    refine ⟨(first, between), hfirst, ?_⟩
    rw [bind_run]
    exact bind_eq_ok_iff.2 ⟨(others, rng'), hothers, rfl⟩

/-- A test of a run is a test of one of its steps. -/
theorem exists_step_of_mem_runAll {l : List α} (h : runAll step l rng = .ok (result, rng'))
    (htest : test ∈ result.tests) :
    ∃ a ∈ l, ∃ before part after, step a before = .ok (part, after) ∧ test ∈ part.tests := by
  induction l generalizing rng result with
  | nil =>
    obtain ⟨rfl, -⟩ := Prod.mk.inj (Except.ok.inj h)
    cases htest
  | cons a rest ih =>
    obtain ⟨first, between, others, hfirst, hothers, rfl⟩ := runAll_cons_eq_ok_iff.1 h
    rcases List.mem_append.1 htest with htest | htest
    · exact ⟨a, List.mem_cons_self, rng, first, between, hfirst, htest⟩
    · obtain ⟨other, hother, hstep⟩ := ih hothers htest
      exact ⟨other, List.mem_cons_of_mem a hother, hstep⟩

/-- The tests of each step are tests of the run. -/
theorem exists_step_runAll {l : List α} (h : runAll step l rng = .ok (result, rng')) (ha : a ∈ l) :
    ∃ before part after, step a before = .ok (part, after) ∧ part.tests ⊆ result.tests := by
  induction l generalizing rng result with
  | nil => cases ha
  | cons other rest ih =>
    obtain ⟨first, between, others, hfirst, hothers, rfl⟩ := runAll_cons_eq_ok_iff.1 h
    rcases List.mem_cons.1 ha with rfl | ha
    · exact ⟨rng, first, between, hfirst, List.subset_append_left _ _⟩
    · obtain ⟨before, part, after, hstep, hsubset⟩ := ih hothers ha
      exact ⟨before, part, after, hstep, List.Subset.trans hsubset (List.subset_append_right _ _)⟩

end

/-! ### The tests of a branch -/

variable {branch entry : Branch} {rng rng' : Twister} {result : SynthesisResult} {test : TestCase}

/-- The values of the entries of a `when` with a subject, whatever is drawn for the `else`. -/
def EntryValueOf (model : Model) (branch : Branch) (value : EntryValue) : Prop :=
  ∃ literal, value ∈ WhenPlan.arrange literal (model.entriesFor branch)

/-- The test for a value of a `when` with a subject. -/
def subjectTest (settings : SynthesisSettings) (model : Model) (target : Target) (branch : Branch)
    (value : EntryValue) : Except Number.Error TestCase :=
  entryTest settings target branch (subjectParameter? target.function (branch.condition.getD ""))
    (model.entriesFor branch) value

/-- The note of the test of an entry of a `when`. -/
def entryNote (text : String) : String := "Testing when branch: " ++ text

/-- The note of the test of an `else` that is not written. -/
def unwrittenNote (branch : Branch) : String :=
  "Testing when else branch of when(" ++ branch.condition.getD "" ++ ")"

/-- A test of an `if` has the assertions of the oracle and a note of its outcome. -/
theorem ifTest_eq (settings : SynthesisSettings) (target : Target) (branch : Branch)
    (conditions : List Condition)
    (values : Bindings) (truths : List Bool) :
    ifTest settings target branch conditions values truths =
      (Oracle.forBranch settings.oracle target.function conditions (branch.condition.getD "")
        (Condition.outcome conditions truths) values branch.body).map fun assertions =>
          target.testCase (target.testName ("When" ++ atomsName conditions truths)) .branch values
            assertions
            [outcomeNote branch (Condition.outcome conditions truths)] :=
  bind_ok_eq_map _ _

/-- A test of an entry has the assertions of the oracle and a note of the entry. -/
theorem caseTest_eq (settings : SynthesisSettings) (target : Target) (entry : Branch)
    (values : Bindings) :
    caseTest settings target entry values =
      (Oracle.forWhenEntry settings.oracle target.function
        (entry.condition.getD "") values entry.body none).map
        fun assertions => target.testCase
          (target.testName ("When" ++ methodName (entry.condition.getD "")))
          .whenEntry values assertions [entryNote (entry.condition.getD "None")] :=
  bind_ok_eq_map _ _

/-- A test for a value of a subject has the assertions of the oracle, and a note of the entry unless
that is not written. -/
theorem entryTest_eq (settings : SynthesisSettings) (target : Target) (parent : Branch)
    (parameter : Option Parameter)
    (entries : List Branch) (value : EntryValue) :
    entryTest settings target parent parameter entries value =
      (Oracle.forWhenEntry settings.oracle target.function value.label
        (subjectValues target parameter value)
        ((entryOf entries value).bind (·.body)) (parameter.map (·.name))).map fun assertions =>
          target.testCase
            (target.testName (if value.isElse && (entryOf entries value).isNone then
              "WhenElseBranch"
              else "When" ++ methodName value.label))
            (if value.isElse then .whenElse
              else .whenEntry) (subjectValues target parameter value) assertions
            [if value.isElse && (entryOf entries value).isNone then unwrittenNote parent
              else entryNote value.label] :=
  bind_ok_eq_map _ _

theorem caseTest_eq_ok {values : Bindings} (h : caseTest settings target entry values = .ok test) :
    test.notes = [entryNote (entry.condition.getD "None")] ∧
      Oracle.forWhenEntry settings.oracle target.function
        (entry.condition.getD "") values entry.body none =
        .ok test.assertions := by
  rw [caseTest_eq] at h
  obtain ⟨assertions, hassertions, rfl⟩ := map_eq_ok_iff.1 h
  exact ⟨rfl, hassertions⟩

/-- Whether the plan for an `if` has an assignment: its condition has an atom, and the search an
attempt. -/
def isPlanned (settings : SynthesisSettings) (branch : Branch) : Bool :=
  !(atomsOf branch).isEmpty &&
    (Plan.isExhaustive settings.planOptions (atomsOf branch) || 0 < settings.attemptBudget)

/-- What a test of a branch was made from. -/
inductive BranchTest (settings : SynthesisSettings) (model : Model) (target : Target)
    (branch : Branch)
    (test : TestCase) : Prop
  | ofIf (values : Bindings) (truths : List Bool) : branch.kind = .ifBranch →
      isPlanned settings branch = true →
      ifTest settings target branch (atomsOf branch) values truths = .ok test →
      BranchTest settings model target branch test
  | ofValue (value : EntryValue) : branch.kind = .when → branch.condition.getD "" ≠ "" →
      model.entriesFor branch ≠ [] → EntryValueOf model branch value →
      subjectTest settings model target branch value = .ok test →
      BranchTest settings model target branch test
  | ofCase (entry : Branch) (values : Bindings) :
      branch.kind = .when → branch.condition.getD "" = "" →
      entry ∈ model.entriesFor branch → entry.isCatchAll = false →
      caseTest settings target entry values = .ok test →
      BranchTest settings model target branch test
  | ofElse : branch.kind = .when → branch.condition.getD "" = "" → model.entriesFor branch ≠ [] →
      elseTest settings target (model.entriesFor branch) = .ok test →
      BranchTest settings model target branch test

/-- Each test for planned assignments is the test of some values. -/
theorem exists_ifTest_of_mem {conditions : List Condition} {seen : List (List Bool)}
    {combinations : List Combination} {tests : List TestCase}
    (h : ifTestsFor settings target branch conditions seen combinations = .ok tests)
    (htest : test ∈ tests) :
    ∃ values truths, ifTest settings target branch conditions values truths = .ok test := by
  induction combinations generalizing seen tests with
  | nil =>
    obtain rfl := Except.ok.inj h
    cases htest
  | cons combination rest ih =>
    rw [ifTestsFor] at h
    obtain ⟨⟨values, truths⟩, -, h⟩ := bind_eq_ok_iff.1 h
    dsimp only at h
    split_ifs at h with hseen
    · exact ih h htest
    · obtain ⟨first, hfirst, h⟩ := bind_eq_ok_iff.1 h
      obtain ⟨others, hothers, h⟩ := bind_eq_ok_iff.1 h
      obtain rfl := Except.ok.inj h
      rcases List.mem_cons.1 htest with rfl | htest
      · exact ⟨values, truths, hfirst⟩
      · exact ih hothers htest

/-- A planned assignment whose truths are new gives a test. -/
theorem tests_ne_nil_of_ifTestsFor {conditions : List Condition} {combinations : List Combination}
    {tests : List TestCase}
    (h : ifTestsFor settings target branch conditions [] combinations = .ok tests)
    (hne : combinations ≠ []) : tests ≠ [] := by
  obtain ⟨combination, rest, rfl⟩ := List.exists_cons_of_ne_nil hne
  rw [ifTestsFor] at h
  obtain ⟨⟨values, truths⟩, -, h⟩ := bind_eq_ok_iff.1 h
  obtain ⟨first, -, h⟩ := bind_eq_ok_iff.1 h
  obtain ⟨others, -, h⟩ := bind_eq_ok_iff.1 h
  obtain rfl := Except.ok.inj h
  exact List.cons_ne_nil _ _

theorem tests_ifTests (h : ifTests settings target branch rng = .ok (result, rng')) :
    (atomsOf branch = [] ∧ result.tests = []) ∨
      atomsOf branch ≠ [] ∧ ifTestsFor settings target branch (atomsOf branch) []
        (Plan.choose settings.planOptions (atomsOf branch) rng).1.combinations =
          .ok result.tests := by
  by_cases hne : atomsOf branch = []
  · have hempty : (Condition.decompose (branch.condition.getD "")).isEmpty = true := by
      simpa [atomsOf] using hne
    simp only [ifTests, hempty, if_true] at h
    obtain ⟨rfl, -⟩ := Prod.mk.inj (Except.ok.inj h)
    exact Or.inl ⟨hne, rfl⟩
  · obtain ⟨warnings, hrun⟩ := ifTests_run settings target hne rng
    rw [hrun] at h
    obtain ⟨tests, htests, hpair⟩ := map_eq_ok_iff.1 h
    obtain ⟨rfl, -⟩ := Prod.mk.inj hpair
    exact Or.inr ⟨hne, htests⟩

/-- An `if` has a test exactly if an assignment is planned for it. -/
theorem tests_ifTests_ne_nil_iff (h : ifTests settings target branch rng = .ok (result, rng')) :
    result.tests ≠ [] ↔ isPlanned settings branch = true := by
  have hplan : isPlanned settings branch = true ↔ atomsOf branch ≠ [] ∧
      (Plan.choose settings.planOptions (atomsOf branch) rng).1.combinations ≠ [] := by
    rw [Plan.combinations_choose_ne_nil_iff]
    simp [isPlanned, SynthesisSettings.planOptions]
  rw [hplan]
  rcases tests_ifTests h with ⟨hnil, htests⟩ | ⟨hne, htests⟩
  · exact iff_of_false (fun hne => hne htests) fun hne => hne.1 hnil
  · refine ⟨fun hresult => ⟨hne, fun hcombinations => hresult ?_⟩, fun hboth => ?_⟩
    · rw [hcombinations] at htests
      exact (Except.ok.inj htests).symm
    · exact tests_ne_nil_of_ifTestsFor htests hboth.2

theorem tests_subjectWhenTests {entries : List Branch}
    (h : subjectWhenTests settings target branch entries rng = .ok (result, rng')) :
    ∃ literal, (WhenPlan.arrange literal entries).mapM (entryTest settings target branch
      (subjectParameter? target.function (branch.condition.getD "")) entries) =
        .ok result.tests := by
  rw [subjectWhenTests_run] at h
  obtain ⟨draw, hdraw, h⟩ := bind_eq_ok_iff.1 h
  obtain ⟨tests, htests, h⟩ := bind_eq_ok_iff.1 h
  obtain ⟨rfl, -⟩ := Prod.mk.inj (Except.ok.inj h)
  obtain ⟨literal, hvalues⟩ := WhenPlan.values_of_make hdraw rng
  rw [entryTests_eq_mapM, hvalues] at htests
  exact ⟨literal, htests⟩

theorem tests_caseTests (h : caseTests settings target entry rng = .ok (result, rng')) :
    ∃ values test, caseTest settings target entry values = .ok test ∧ result.tests = [test] := by
  obtain ⟨warnings, hrun⟩ := caseTests_run settings target entry rng
  rw [hrun] at h
  obtain ⟨test, htest, hpair⟩ := map_eq_ok_iff.1 h
  obtain ⟨rfl, -⟩ := Prod.mk.inj hpair
  obtain ⟨values, -, htest⟩ := bind_eq_ok_iff.1 htest
  exact ⟨values, test, htest, rfl⟩

/-- The test of the `else` stands behind those of the entries. -/
theorem subjectlessWhenTests_eq_ok {entries : List Branch}
    (h : subjectlessWhenTests settings target entries rng = .ok (result, rng')) :
    ∃ cases last, runAll (caseTests settings target) (entries.filter (!·.isCatchAll)) rng =
      .ok (cases, rng') ∧
      elseTest settings target entries = .ok last ∧ result = cases.append { tests := [last] } := by
  rw [subjectlessWhenTests, bind_run] at h
  obtain ⟨⟨cases, after⟩, hcases, h⟩ := bind_eq_ok_iff.1 h
  rw [checking_bind] at h
  obtain ⟨last, hlast, h⟩ := bind_eq_ok_iff.1 h
  obtain ⟨rfl, rfl⟩ := Prod.mk.inj (Except.ok.inj h)
  rw [allCaseTests_eq_runAll] at hcases
  exact ⟨cases, last, hcases, hlast, rfl⟩

theorem tests_subjectlessWhenTests {entries : List Branch}
    (h : subjectlessWhenTests settings target entries rng = .ok (result, rng')) :
    ∃ cases after last, runAll (caseTests settings target) (entries.filter (!·.isCatchAll)) rng
        = .ok (cases, after) ∧ elseTest settings target entries = .ok last ∧
      result.tests = cases.tests ++ [last] := by
  obtain ⟨cases, last, hcases, hlast, rfl⟩ := subjectlessWhenTests_eq_ok h
  exact ⟨cases, rng', last, hcases, hlast, rfl⟩

theorem branchTests_of_nil (hkind : branch.kind = .when) (hnil : model.entriesFor branch = []) :
    branchTests settings model target branch = pure {} := by
  rw [branchTests, hkind]
  dsimp only
  rw [whenTests, hnil]

/-- Each test of a branch was made from the branch or from one of its entries. -/
theorem branchTest_of_mem (h : branchTests settings model target branch rng = .ok (result, rng'))
    (htest : test ∈ result.tests) : BranchTest settings model target branch test := by
  cases hkind : branch.kind with
  | ifBranch =>
    simp only [branchTests, hkind] at h
    have hplanned := (tests_ifTests_ne_nil_iff h).1 (List.ne_nil_of_mem htest)
    rcases tests_ifTests h with ⟨-, hnil⟩ | ⟨-, htests⟩
    · rw [hnil] at htest
      cases htest
    · obtain ⟨values, truths, hmade⟩ := exists_ifTest_of_mem htests htest
      exact .ofIf values truths hkind hplanned hmade
  | whenEntry =>
    simp only [branchTests, hkind] at h
    obtain ⟨rfl, -⟩ := Prod.mk.inj (Except.ok.inj h)
    cases htest
  | when =>
    by_cases hne : model.entriesFor branch = []
    · rw [branchTests_of_nil hkind hne] at h
      obtain ⟨rfl, -⟩ := Prod.mk.inj (Except.ok.inj h)
      cases htest
    rw [branchTests_eq_whenTests hkind hne] at h
    split_ifs at h with hsubject
    · obtain ⟨cases, after, last, hcases, hlast, htests⟩ := tests_subjectlessWhenTests h
      rw [htests] at htest
      rcases List.mem_append.1 htest with htest | htest
      · obtain ⟨entry, hentry, before, part, after, hpart, htest⟩ :=
          exists_step_of_mem_runAll hcases htest
        obtain ⟨values, made, hmade, hpart⟩ := tests_caseTests hpart
        obtain rfl : test = made := by simpa [hpart] using htest
        obtain ⟨hmem, hcatch⟩ := List.mem_filter.1 hentry
        exact .ofCase entry values hkind hsubject hmem (by simpa using hcatch) hmade
      · obtain rfl : test = last := by simpa using htest
        exact .ofElse hkind hsubject hne hlast
    · obtain ⟨literal, htests⟩ := tests_subjectWhenTests h
      obtain ⟨value, hvalue, hmade⟩ := exists_of_mem_mapM htests htest
      exact .ofValue value hkind hsubject hne ⟨literal, hvalue⟩ hmade

/-! ### The tests of a model -/

/-- What all tests of a function share, apart from the values drawn for variadic parameters. -/
structure IsTarget (model : Model) (function : FunctionDecl) (target : Target) : Prop where
  owner : target.owner = ownerOf model function
  setup : target.setup = (ownerOf model function).map Target.setupOf
  symbols : target.baseSymbols = Target.symbolsOf model function (ownerOf model function)
  function : target.function = function

theorem isTarget_ofFunction (model : Model) (sites : CallSites) (function : FunctionDecl)
    (rng : Twister) :
    IsTarget model function (Target.ofFunction model sites function
      (ownerOf model function) rng).1 :=
  ⟨rfl, rfl, rfl, rfl⟩

/-- A test of a function: the one that only calls it, or one of a branch. -/
inductive FunctionTest (settings : SynthesisSettings) (model : Model) (function : FunctionDecl)
    (target : Target) (test : TestCase) : Prop
  | ofCall (rng : Twister) : (target.basicTest rng).1 = test →
      FunctionTest settings model function target test
  | ofBranch (branch : Branch) : branch ∈ model.branchesFor function →
      BranchTest settings model target branch test →
      FunctionTest settings model function target test

variable {sites : CallSites} {function : FunctionDecl}

/-- The tests of a testable function are one that only calls it and those of its branches; another
function has none. -/
theorem functionTests_eq_ok
    (h : functionTests settings model sites function rng = .ok (result, rng')) :
    (isTestable function (ownerOf model function) = false ∧ result.tests = []) ∨
      isTestable function (ownerOf model function) = true ∧
        ∃ target before between branches after, IsTarget model function target ∧
          runAll (branchTests settings model target) (model.branchesFor function) between
            = .ok (branches, after) ∧
          result.tests = (target.basicTest before).1 :: branches.tests := by
  unfold functionTests at h
  by_cases htestable : isTestable function (ownerOf model function) = true
  · simp only [htestable, if_true, drawing_bind] at h
    rw [bind_run] at h
    obtain ⟨⟨branches, after⟩, hbranches, h⟩ := bind_eq_ok_iff.1 h
    obtain ⟨rfl, -⟩ := Prod.mk.inj (Except.ok.inj h)
    rw [allBranchTests_eq_runAll] at hbranches
    exact Or.inr ⟨htestable, _, _, _, branches, after, isTarget_ofFunction model sites function rng,
      hbranches, rfl⟩
  · simp only [htestable] at h
    obtain ⟨rfl, -⟩ := Prod.mk.inj (Except.ok.inj h)
    exact Or.inl ⟨by simpa using htestable, rfl⟩

theorem runAll_of_synthesize (h : synthesize settings model = .ok result) :
    ∃ after, runAll (functionTests settings model (CallSites.ofModel model)) model.functions
      (Twister.ofSeed settings.seed) = .ok (result, after) := by
  obtain ⟨⟨found, after⟩, hrun, rfl⟩ := map_eq_ok_iff.1 h
  rw [allTests_eq_runAll] at hrun
  exact ⟨after, hrun⟩

/-- **Each test of a model is a test of a testable function.** -/
theorem exists_origin_of_mem_synthesize (h : synthesize settings model = .ok result)
    (htest : test ∈ result.tests) :
    ∃ function ∈ model.functions, isTestable function (ownerOf model function) = true ∧
      ∃ target, IsTarget model function target ∧
        FunctionTest settings model function target test := by
  obtain ⟨_, hrun⟩ := runAll_of_synthesize h
  obtain ⟨function, hmem, before, part, after, hpart, htest⟩ := exists_step_of_mem_runAll hrun htest
  refine ⟨function, hmem, ?_⟩
  rcases functionTests_eq_ok hpart with ⟨-, hnil⟩ | ⟨htestable, target, start, _, branches, _,
    htarget, hbranches, htests⟩
  · rw [hnil] at htest
    cases htest
  · refine ⟨htestable, target, htarget, ?_⟩
    rw [htests] at htest
    rcases List.mem_cons.1 htest with rfl | htest
    · exact .ofCall start rfl
    · obtain ⟨branch, hbranch, _, found, _, hfound, htest⟩ :=
        exists_step_of_mem_runAll hbranches htest
      exact .ofBranch branch hbranch (branchTest_of_mem hfound htest)

/-- **Each testable function has a test that only calls it and the tests of its branches.** -/
theorem exists_target_synthesize (h : synthesize settings model = .ok result)
    (hfunction : function ∈ model.functions)
    (htestable : isTestable function (ownerOf model function) = true) :
    ∃ target, IsTarget model function target ∧
      (∃ before, (target.basicTest before).1 ∈ result.tests) ∧
      ∀ branch ∈ model.branchesFor function, ∃ before part after,
        branchTests settings model target branch before = .ok (part, after) ∧
          part.tests ⊆ result.tests := by
  obtain ⟨_, hrun⟩ := runAll_of_synthesize h
  obtain ⟨before, part, after, hpart, hsubset⟩ := exists_step_runAll hrun hfunction
  rcases functionTests_eq_ok hpart with ⟨hnot, -⟩ | ⟨-, target, start, _, branches, _, htarget,
    hbranches, htests⟩
  · rw [htestable] at hnot
    cases hnot
  · refine ⟨target, htarget, ⟨start, hsubset ?_⟩, fun branch hbranch => ?_⟩
    · rw [htests]
      exact List.mem_cons_self
    · obtain ⟨first, found, last, hfound, hfoundSubset⟩ := exists_step_runAll hbranches hbranch
      refine ⟨first, found, last, hfound, List.Subset.trans hfoundSubset fun test htest =>
        hsubset ?_⟩
      rw [htests]
      exact List.mem_cons_of_mem _ htest

end BranchCover.Synthesis
