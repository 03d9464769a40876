import BranchCover.Proofs.Synthesis.Answers

/-!
# The exact oracle changes assertions only

The synthesis makes the same tests with both oracles. For some of them the exact oracle is asked for
the value of a body, and its answer replaces the assertions: for the tests of a true outcome, and
for those of the entries of a `when` that are no `else`. It draws nothing, so all later tests stay
the same; but it fails on an integer with too many digits, and then there are no tests.

* `answersTest_ifTest`, `answersTest_caseTest`, `answersTest_subjectTest`: the tests that the oracle
  is asked for.
* `follows_branchTests`, `follows_functionTests`, `follows_synthesize`: the synthesis with both
  oracles.
* `SameButAssertions`: two tests that differ in their assertions at most.
-/

namespace BranchCover.Synthesis

variable {settings : SynthesisSettings} {model : Model} {target : Target} {branch entry : Branch}
  {test : TestCase}
  {question : Option Question}

/-! ### The tests of a branch -/

/-- Settings with another oracle. -/
def withOracle (settings : SynthesisSettings) (mode : Oracle.Mode) : SynthesisSettings :=
  { settings with oracle := mode }

@[simp] theorem planOptions_withOracle (mode : Oracle.Mode) :
    (withOracle settings mode).planOptions = settings.planOptions := rfl

/-- A test with the answer to a question, for the values that it is made with. -/
theorem answer_testCase {values : Bindings} {body : Option String}
    (hbound : ∀ name, (values.get? name).isSome = (fixedParameter? target.function name).isSome)
    (name : String)
    (kind : TestKind) (heuristic : List Assertion) (notes : List String) :
    answer (target.testCase name kind values heuristic notes, some ⟨target.function, body⟩) =
      (Oracle.simulatedOr heuristic target.function body values).map fun assertions =>
        target.testCase name kind values assertions notes := by
  have hvalues := get?_values_of_bound hbound name kind heuristic notes
  have hassertions : (target.testCase name kind values heuristic notes).assertions = heuristic :=
    rfl
  have hupdate :
    ∀ assertions, { target.testCase name kind values heuristic notes with assertions } =
      target.testCase name kind values assertions notes := fun _ => rfl
  rw [answer, hassertions, Oracle.simulatedOr_congr hvalues]
  simp only [hupdate]

/-- The exact oracle is asked for the tests of a true outcome. -/
theorem answersTest_ifTest {values : Bindings} {truths : List Bool}
    (hfunction : target.function ∈ model.functions)
    (hbranch : branch ∈ model.branchesFor target.function) (hkind : branch.kind = .ifBranch)
    (hvalues : Suitable target.function values) :
    AnswersTest model (ifTest (withOracle settings .heuristic) target branch
      (atomsOf branch) values truths)
      (ifTest (withOracle settings .exact) target branch (atomsOf branch) values truths) := by
  rw [ifTest_eq, ifTest_eq]
  refine ⟨fun _ => ?_, fun test htest => ?_⟩
  · rw [returns_map_iff, Oracle.returns_forBranch_iff]
    rintro ⟨⟩
  obtain ⟨assertions, hassertions, rfl⟩ := map_eq_ok_iff.1 htest
  rw [Oracle.forBranch_eq, if_neg (by simp [withOracle])] at hassertions
  obtain rfl := Except.ok.inj hassertions
  rw [Oracle.forBranch_eq]
  by_cases houtcome : Condition.outcome (atomsOf branch) truths = true
  · rw [if_pos ⟨houtcome, rfl⟩, houtcome]
    refine ⟨some ⟨target.function, branch.body⟩, .ofIf hfunction hbranch hkind rfl rfl, ?_⟩
    rw [answer_testCase hvalues.bound]
  · rw [if_neg fun h => houtcome h.1]
    refine ⟨none, .unasked ?_, rfl⟩
    rw [Bool.not_eq_true] at houtcome
    rw [houtcome]
    show ([outcomeNote branch false].any fun note => Text.endsWith note.toList _) = true
    rw [List.any_cons, endsWith_outcomeNote]
    rfl

theorem answersTests_ifTestsFor {seen : List (List Bool)} {combinations : List Combination}
    (hfunction : target.function ∈ model.functions)
    (hbranch : branch ∈ model.branchesFor target.function)
    (hkind : branch.kind = .ifBranch) :
    AnswersTests model
      (ifTestsFor (withOracle settings .heuristic) target branch (atomsOf branch) seen combinations)
      (ifTestsFor (withOracle settings .exact) target branch
        (atomsOf branch) seen combinations) := by
  induction combinations generalizing seen with
  | nil => exact answersTests_nil
  | cons combination rest ih =>
    rw [ifTestsFor, ifTestsFor]
    cases hdrive : drive target.function (atomsOf branch) combination.assignment
      target.neutralValues with
    | error e =>
      refine ⟨id, fun tests h => ?_⟩
      cases h
    | ok driven =>
      obtain ⟨values, truths⟩ := driven
      rw [ok_bind, ok_bind]
      dsimp only
      split_ifs
      · exact ih
      · exact (answersTest_ifTest hfunction hbranch hkind
          (drive_suitable (suitable_neutralValues target) hdrive)).cons ih

theorem follows_ifTests (hfunction : target.function ∈ model.functions)
    (hbranch : branch ∈ model.branchesFor target.function) (hkind : branch.kind = .ifBranch) :
    Follows model (ifTests (withOracle settings .heuristic) target branch)
      (ifTests (withOracle settings .exact) target branch) := by
  unfold ifTests
  simp only [planOptions_withOracle]
  split_ifs
  · exact follows_pure (by simp)
  · exact follows_drawing fun rng => (answersTests_ifTestsFor hfunction hbranch hkind).follows _

/-! ### The tests of a `when` -/

theorem answersTest_caseTest {values : Bindings} (hfunction : target.function ∈ model.functions)
    (hbranch : branch ∈ model.branchesFor target.function) (hkind : branch.kind = .when)
    (hentry : entry ∈ model.entriesFor branch) (hcatch : entry.isCatchAll = false)
    (hvalues : Suitable target.function values) :
    AnswersTest model (caseTest (withOracle settings .heuristic) target entry values)
      (caseTest (withOracle settings .exact) target entry values) := by
  obtain ⟨heuristic, hheuristic, hexact⟩ :=
    Oracle.exists_forWhenEntry target.function values entry.body none
    (condition_ne_else (kind_of_mem_entriesFor hentry) hcatch)
  rw [caseTest_eq, caseTest_eq, show (withOracle settings .heuristic).oracle = .heuristic from rfl,
    show (withOracle settings .exact).oracle = .exact from rfl, hheuristic, hexact]
  refine ⟨fun _ => returns_ok _, fun test htest => ?_⟩
  obtain rfl := Except.ok.inj htest
  refine ⟨some ⟨target.function, entry.body⟩,
    .ofEntry hfunction hbranch hkind hentry hcatch hentry rfl rfl rfl, ?_⟩
  rw [answer_testCase hvalues.bound]

theorem follows_caseTests (hfunction : target.function ∈ model.functions)
    (hbranch : branch ∈ model.branchesFor target.function) (hkind : branch.kind = .when)
    (hentry : entry ∈ model.entriesFor branch) (hcatch : entry.isCatchAll = false) :
    Follows model (caseTests (withOracle settings .heuristic) target entry)
      (caseTests (withOracle settings .exact) target entry) := by
  have htest : ∀ {values}, Suitable target.function values → AnswersTest model
      (caseTest (withOracle settings .heuristic) target entry values)
      (caseTest (withOracle settings .exact) target entry values) := fun hvalues =>
    answersTest_caseTest hfunction hbranch hkind hentry hcatch hvalues
  have hneutral := suitable_neutralValues target
  unfold caseTests
  simp only [planOptions_withOracle]
  split_ifs
  · exact (htest hneutral).follows []
  · refine follows_drawing fun rng => ?_
    cases (Plan.choose settings.planOptions (firstCase entry) rng).1.combinations.find?
      (·.outcome) with
    | none => exact (htest hneutral).follows _
    | some chosen =>
      refine follows_checking fun driven hdrive => ?_
      obtain ⟨values, truths⟩ := driven
      exact (htest (drive_suitable hneutral hdrive)).follows []

/-- Tests for which nothing is asked are made alike. -/
theorem answersTest_unasked {made : Except Number.Error TestCase}
    (h : ∀ test, made = .ok test → isUnasked test = true) :
    AnswersTest model made made :=
  ⟨id, fun test htest => ⟨none, .unasked (h test htest), htest⟩⟩

theorem answersTest_elseTest {entries : List Branch} :
    AnswersTest model (elseTest (withOracle settings .heuristic) target entries)
      (elseTest (withOracle settings .exact) target entries) := by
  have hsame : elseTest (withOracle settings .exact) target entries =
      elseTest (withOracle settings .heuristic) target entries := by
    unfold elseTest
    simp only [Oracle.forWhenEntry_else (withOracle settings .exact).oracle,
      Oracle.forWhenEntry_else (withOracle settings .heuristic).oracle]
  rw [hsame]
  refine answersTest_unasked fun test htest => ?_
  obtain ⟨values, -, htest⟩ := bind_eq_ok_iff.1 htest
  obtain ⟨assertions, -, htest⟩ := bind_eq_ok_iff.1 htest
  obtain rfl := Except.ok.inj htest
  rfl

theorem follows_subjectlessWhenTests (hfunction : target.function ∈ model.functions)
    (hbranch : branch ∈ model.branchesFor target.function) (hkind : branch.kind = .when) :
    Follows model (subjectlessWhenTests (withOracle settings .heuristic) target
      (model.entriesFor branch))
      (subjectlessWhenTests (withOracle settings .exact) target (model.entriesFor branch)) := by
  have hrun : ∀ settings, subjectlessWhenTests settings target (model.entriesFor branch) = do
      let cases ← runAll (caseTests settings target)
        ((model.entriesFor branch).filter (!·.isCatchAll))
      let last ← checking (elseTest settings target (model.entriesFor branch)) >>= fun test =>
        pure { tests := [test] }
      return cases.append last := by
    intro settings
    rw [subjectlessWhenTests, allCaseTests_eq_runAll]
    simp only [bind_assoc, pure_bind]
  rw [hrun, hrun]
  refine (follows_runAll fun entry hentry => ?_).append (answersTest_elseTest.follows [])
  obtain ⟨hmem, hcatch⟩ := List.mem_filter.1 hentry
  exact follows_caseTests hfunction hbranch hkind hmem (by simpa using hcatch)

/-- The subject of a `when` is bound only if it is a parameter. -/
theorem bound_subjectValues (target : Target) (subject : String) (value : EntryValue)
    (name : String) :
    ((subjectValues target (subjectParameter? target.function subject) value).get? name).isSome =
      (fixedParameter? target.function name).isSome := by
  have hneutral := (suitable_neutralValues target).bound name
  unfold subjectValues
  split
  · rename_i parameter literal hparameter hliteral
    have hmem : parameter ∈ Target.fixedParameters target.function.parameters := by
      unfold subjectParameter? at hparameter
      dsimp only at hparameter
      rcases (Option.orElse_eq_some _ _ _).1 hparameter with hfound | ⟨-, hfound⟩
      · exact List.mem_of_find?_eq_some hfound
      · exact List.mem_of_find?_eq_some hfound
    obtain ⟨hparameter, hfixed⟩ := List.mem_filter.1 hmem
    rw [Bindings.get?_set]
    split_ifs with hname
    · rw [isSome_fixedParameter?.2 ⟨parameter, hparameter, by simpa using hfixed, hname⟩]
      rfl
    · exact hneutral
  · exact hneutral

theorem exists_entryOf {entries : List Branch} (hentry : entry ∈ entries) :
    ∃ other ∈ entries, other.id = entry.id ∧
      entryOf entries (WhenPlan.valueOf entry) = some other := by
  have hsome : (entries.reverse.find? (·.id == entry.id)).isSome = true := by
    rw [List.find?_isSome]
    exact ⟨entry, List.mem_reverse.2 hentry, by simp⟩
  obtain ⟨other, hother⟩ := Option.isSome_iff_exists.1 hsome
  refine ⟨other, List.mem_reverse.1 (List.mem_of_find?_eq_some hother), ?_, hother⟩
  simpa using List.find?_some hother

/-- The exact oracle is asked for the entries of a `when` with a subject that are no `else`. -/
theorem answersTest_subjectTest {value : EntryValue} (hfunction : target.function ∈ model.functions)
    (hbranch : branch ∈ model.branchesFor target.function) (hkind : branch.kind = .when)
    (hvalue : EntryValueOf model branch value) :
    AnswersTest model (subjectTest (withOracle settings .heuristic) model target branch value)
      (subjectTest (withOracle settings .exact) model target branch value) := by
  obtain ⟨literal, hvalue⟩ := hvalue
  unfold subjectTest
  rw [entryTest_eq, entryTest_eq]
  rcases WhenPlan.mem_arrange hvalue with ⟨hisElse, helse⟩ | ⟨entry, hentry, hcatch, rfl⟩
  · rw [helse, Oracle.forWhenEntry_else (withOracle settings .exact).oracle,
      Oracle.forWhenEntry_else (withOracle settings .heuristic).oracle]
    refine answersTest_unasked fun test htest => ?_
    obtain ⟨assertions, -, rfl⟩ := map_eq_ok_iff.1 htest
    rw [hisElse]
    rfl
  · obtain ⟨other, hother, hid, hfound⟩ := exists_entryOf hentry
    obtain ⟨heuristic, hheuristic, hexact⟩ := Oracle.exists_forWhenEntry target.function
      (subjectValues target (subjectParameter? target.function (branch.condition.getD ""))
        (WhenPlan.valueOf entry))
      other.body ((subjectParameter? target.function (branch.condition.getD "")).map (·.name))
      (condition_ne_else (kind_of_mem_entriesFor hentry) hcatch)
    rw [hfound]
    show AnswersTest model
      ((Oracle.forWhenEntry .heuristic target.function (entry.condition.getD "") _ other.body _).map
        _)
      ((Oracle.forWhenEntry .exact target.function (entry.condition.getD "") _ other.body _).map _)
    rw [hheuristic, hexact]
    refine ⟨fun _ => returns_ok _, fun test htest => ?_⟩
    obtain rfl := Except.ok.inj htest
    refine ⟨some ⟨target.function, other.body⟩,
      .ofEntry hfunction hbranch hkind hentry hcatch hother hid rfl rfl, ?_⟩
    rw [answer_testCase (bound_subjectValues target _ _)]

theorem follows_subjectWhenTests (hfunction : target.function ∈ model.functions)
    (hbranch : branch ∈ model.branchesFor target.function) (hkind : branch.kind = .when) :
    Follows model (subjectWhenTests (withOracle settings .heuristic) target branch
      (model.entriesFor branch))
      (subjectWhenTests (withOracle settings .exact) target branch (model.entriesFor branch)) := by
  unfold subjectWhenTests
  refine follows_checking fun draw hdraw => follows_drawing fun rng => ?_
  obtain ⟨literal, hvalues⟩ := WhenPlan.values_of_make hdraw rng
  rw [entryTests_eq_mapM, entryTests_eq_mapM, hvalues]
  refine (answersTests_mapM fun value hvalue => ?_).follows _
  exact answersTest_subjectTest hfunction hbranch hkind ⟨literal, hvalue⟩

/-! ### The tests of a model -/

theorem follows_branchTests (hfunction : target.function ∈ model.functions)
    (hbranch : branch ∈ model.branchesFor target.function) :
    Follows model (branchTests (withOracle settings .heuristic) model target branch)
      (branchTests (withOracle settings .exact) model target branch) := by
  cases hkind : branch.kind with
  | ifBranch =>
    simp only [branchTests, hkind]
    exact follows_ifTests hfunction hbranch hkind
  | whenEntry =>
    simp only [branchTests, hkind]
    exact follows_pure (by simp)
  | when =>
    by_cases hne : model.entriesFor branch = []
    · rw [branchTests_of_nil hkind hne, branchTests_of_nil hkind hne]
      exact follows_pure (by simp)
    · rw [branchTests_eq_whenTests hkind hne, branchTests_eq_whenTests hkind hne]
      split_ifs
      · exact follows_subjectlessWhenTests hfunction hbranch hkind
      · exact follows_subjectWhenTests hfunction hbranch hkind

theorem isUnasked_basicTest (target : Target) (rng : Twister) :
    isUnasked (target.basicTest rng).1 = true := rfl

theorem follows_functionTests {sites : CallSites} {function : FunctionDecl}
    (hfunction : function ∈ model.functions) :
    Follows model (functionTests (withOracle settings .heuristic) model sites function)
      (functionTests (withOracle settings .exact) model sites function) := by
  unfold functionTests
  dsimp only
  split_ifs
  · refine follows_drawing fun rng => follows_drawing fun rng' => ?_
    have htarget := isTarget_ofFunction model sites function rng
    have hbasic : ∀ test ∈ ({ tests := [((Target.ofFunction model sites function
        (ownerOf model function) rng).1.basicTest rng').1] } : SynthesisResult).tests,
          isUnasked test = true :=
      List.forall_mem_singleton.2 (isUnasked_basicTest _ _)
    rw [allBranchTests_eq_runAll, allBranchTests_eq_runAll]
    refine (follows_pure hbasic).append (follows_runAll fun branch hbranch => ?_)
    rw [← htarget.function] at hfunction hbranch
    exact follows_branchTests hfunction hbranch
  · exact follows_pure (by simp)

/-- **The synthesis with the exact oracle gives the answers for the tests that it gives
without.** -/
theorem follows_synthesize (settings : SynthesisSettings) (model : Model) :
    (Returns (synthesize (withOracle settings .exact) model) →
      Returns (synthesize (withOracle settings .heuristic) model)) ∧
    ∀ result, synthesize (withOracle settings .heuristic) model = .ok result →
      ∃ questions, List.Forall₂ (Asks model) result.tests questions ∧
        synthesize (withOracle settings .exact) model =
          (answers result.tests questions).map fun tests => { result with tests } := by
  have hrun : ∀ mode, synthesize (withOracle settings mode) model =
      (runAll (functionTests (withOracle settings mode) model (CallSites.ofModel model))
        model.functions
        (Twister.ofSeed settings.seed)).map (·.1) := by
    intro mode
    rw [← allTests_eq_runAll]
    rfl
  have hfollows : Follows model
      (runAll (functionTests (withOracle settings .heuristic) model (CallSites.ofModel model))
        model.functions)
      (runAll (functionTests (withOracle settings .exact) model (CallSites.ofModel model))
        model.functions) :=
    follows_runAll fun function hfunction => follows_functionTests hfunction
  rw [hrun, hrun]
  constructor
  · rw [returns_map_iff, returns_map_iff]
    exact hfollows.returns _
  · intro result hresult
    obtain ⟨⟨found, after⟩, hfound, rfl⟩ := map_eq_ok_iff.1 hresult
    obtain ⟨questions, hall, hexact⟩ := hfollows.answered _ found after hfound
    refine ⟨questions, hall, ?_⟩
    rw [hexact]
    cases answers found.tests questions with
    | ok tests => rfl
    | error e => rfl

/-! ### What the exact oracle changes -/

/-- Two tests that differ in their assertions at most, and in nothing if the exact oracle is not
asked. -/
def SameButAssertions (heuristic exact : TestCase) : Prop :=
  exact = { heuristic with assertions := exact.assertions } ∧
    (isUnasked heuristic = true → exact = heuristic)

theorem sameButAssertions_answer {exact : TestCase} (hasks : Asks model test question)
    (h : answer (test, question) = .ok exact) : SameButAssertions test exact := by
  cases question with
  | none =>
    obtain rfl := Except.ok.inj h
    exact ⟨rfl, fun _ => rfl⟩
  | some question =>
    rw [answer] at h
    obtain ⟨assertions, -, rfl⟩ := map_eq_ok_iff.1 h
    refine ⟨rfl, fun hunasked => ?_⟩
    cases hasks.isUnasked_iff.1 hunasked

theorem sameButAssertions_answers {tests exact : List TestCase} {questions : List (Option Question)}
    (hall : List.Forall₂ (Asks model) tests questions) (h : answers tests questions = .ok exact) :
    List.Forall₂ SameButAssertions tests exact := by
  induction hall generalizing exact with
  | nil =>
    obtain rfl := Except.ok.inj h
    exact .nil
  | cons hasks _ ih =>
    rw [answers_cons] at h
    obtain ⟨first, hfirst, h⟩ := bind_eq_ok_iff.1 h
    obtain ⟨others, hothers, h⟩ := bind_eq_ok_iff.1 h
    obtain rfl := Except.ok.inj h
    exact .cons (sameButAssertions_answer hasks hfirst) (ih hothers)

theorem exists_mem_zip {tests : List TestCase} {questions : List (Option Question)}
    (hall : List.Forall₂ (Asks model) tests questions) (htest : test ∈ tests) :
    ∃ question, (test, question) ∈ tests.zip questions ∧ Asks model test question := by
  induction hall with
  | nil => cases htest
  | @cons first question rest questions hasks _ ih =>
    rcases List.mem_cons.1 htest with rfl | htest
    · exact ⟨question, List.mem_cons_self, hasks⟩
    · obtain ⟨other, hother, hasks⟩ := ih htest
      exact ⟨other, List.mem_cons_of_mem _ hother, hasks⟩

/-- The bodies that the exact oracle is asked for can be read. -/
def QuestionsReadable (tests : List TestCase) (questions : List (Option Question)) : Prop :=
  ∀ pair ∈ tests.zip questions, ∀ question ∈ pair.2,
    Oracle.BodyReadable question.function question.body pair.1.values

theorem returns_answers_iff {tests : List TestCase} {questions : List (Option Question)} :
    Returns (answers tests questions) ↔ QuestionsReadable tests questions := by
  unfold answers QuestionsReadable
  rw [returns_mapM_iff]
  refine forall_congr' fun pair => imp_congr_right fun _ => ?_
  obtain ⟨test, question⟩ := pair
  cases question with
  | none => exact iff_of_true (returns_ok _) (by simp)
  | some question =>
    rw [answer, returns_map_iff, Oracle.simulatedOr, returns_map_iff, Oracle.returns_simulate_iff]
    simp

/-- **The oracle changes the assertions only, and those of the tests of true outcomes and of entries
that are no `else` only. With the exact oracle there are tests exactly if it can read the bodies
that it is asked for.** -/
theorem synthesize_oracle (settings : SynthesisSettings) (model : Model) :
    (∀ exact, synthesize (withOracle settings .exact) model = .ok exact →
      ∃ heuristic, synthesize (withOracle settings .heuristic) model = .ok heuristic ∧
        heuristic.warnings = exact.warnings ∧
        List.Forall₂ SameButAssertions heuristic.tests exact.tests) ∧
    ∀ heuristic, synthesize (withOracle settings .heuristic) model = .ok heuristic →
      ∃ questions, List.Forall₂ (Asks model) heuristic.tests questions ∧
        (Returns (synthesize (withOracle settings .exact) model) ↔
          QuestionsReadable heuristic.tests questions) := by
  obtain ⟨hreturns, hanswered⟩ := follows_synthesize settings model
  constructor
  · intro exact hexact
    obtain ⟨heuristic, hheuristic⟩ := hreturns ⟨exact, hexact⟩
    obtain ⟨questions, hall, hanswers⟩ := hanswered heuristic hheuristic
    rw [hanswers] at hexact
    obtain ⟨tests, htests, rfl⟩ := map_eq_ok_iff.1 hexact
    exact ⟨heuristic, hheuristic, rfl, sameButAssertions_answers hall htests⟩
  · intro heuristic hheuristic
    obtain ⟨questions, hall, hanswers⟩ := hanswered heuristic hheuristic
    refine ⟨questions, hall, ?_⟩
    rw [hanswers, returns_map_iff, returns_answers_iff]

/-! ### An example -/

/-- A model with a function that has one `if` with a body. -/
def bodyModel (body : String) : Model where
  functions := [(exampleTarget []).function]
  branches := [exampleIf "a > 0" (some body)]

/-- The exact oracle computes the value of a body, and all but the assertions stays the same. -/
theorem synthesize_oracle_seven :
    ∃ exact heuristic, synthesize (withOracle {} .exact) (bodyModel "return 7") = .ok exact ∧
      synthesize (withOracle {} .heuristic) (bodyModel "return 7") = .ok heuristic ∧
      exact.tests.map (·.name) = ["testF", "testFWhenNotA0", "testFWhenA0"] ∧
      exact.tests.any (·.assertions.any (·.expected == some "7")) = true ∧
      List.Forall₂ SameButAssertions heuristic.tests exact.tests := by
  have hrun : (synthesize (withOracle {} .exact) (bodyModel "return 7")).map (fun exact =>
      (exact.tests.map (·.name), exact.tests.any (·.assertions.any (·.expected == some "7")))) =
        .ok (["testF", "testFWhenNotA0", "testFWhenA0"], true) := by decide +kernel
  obtain ⟨exact, hexact, hpair⟩ := map_eq_ok_iff.1 hrun
  obtain ⟨hnames, hseven⟩ := Prod.mk.inj hpair
  obtain ⟨heuristic, hheuristic, -, hall⟩ :=
    (synthesize_oracle {} (bodyModel "return 7")).1 exact hexact
  exact ⟨exact, heuristic, hexact, hheuristic, hnames, hseven, hall⟩

/-- A body of 4301 digits is more than the exact oracle reads, and no test is made with it. -/
theorem synthesize_oracle_longInteger :
    Returns (synthesize (withOracle {} .heuristic)
      (bodyModel (String.ofList (List.replicate 4301 '1')))) ∧
      ¬ Returns (synthesize (withOracle {} .exact)
        (bodyModel (String.ofList (List.replicate 4301 '1')))) := by
  have hrun : (synthesize (withOracle {} .heuristic)
    (bodyModel (String.ofList (List.replicate 4301 '1')))).map
      (fun heuristic => heuristic.tests.any (!isUnasked ·)) = .ok true := by decide +kernel
  obtain ⟨heuristic, hheuristic, hany⟩ := map_eq_ok_iff.1 hrun
  refine ⟨⟨heuristic, hheuristic⟩, fun hreturns => ?_⟩
  obtain ⟨questions, hall, hanswers⟩ := (follows_synthesize {} _).2 heuristic hheuristic
  rw [hanswers, returns_map_iff, returns_answers_iff] at hreturns
  -- the oracle is asked for some test, and there is only one body that it can be asked for
  obtain ⟨test, htest, hasked⟩ := List.any_eq_true.1 hany
  obtain ⟨question, hpair, hasks⟩ := exists_mem_zip hall htest
  have hbody := hreturns (test, question) hpair
  have hbranches : ∀ {function branch},
    branch ∈ (bodyModel (String.ofList (List.replicate 4301 '1'))).branchesFor
      function → branch = exampleIf "a > 0" (some (String.ofList (List.replicate 4301 '1'))) :=
      fun h =>
    List.mem_singleton.1 (List.mem_filter.1 h).1
  cases hasks with
  | unasked hunasked =>
    rw [hunasked] at hasked
    cases hasked
  | ofIf hfunction hbranch =>
    obtain rfl := List.mem_singleton.1 hfunction
    obtain rfl := hbranches hbranch
    have hoperand : Oracle.Operand.integer ⟨false, List.replicate 4301 '1'⟩ ∈
        Oracle.bodyOperands (String.ofList (List.replicate 4301 '1')) := by
      rw [Oracle.bodyOperands_ones]
      exact List.mem_singleton_self _
    have hshort := hbody _ rfl (by decide) _ hoperand _ rfl
    rw [Literal.IntegerLiteral.Short, List.length_replicate] at hshort
    exact absurd hshort (by decide)
  | ofEntry _ hbranch hkind =>
    rw [hbranches hbranch] at hkind
    cases hkind

end BranchCover.Synthesis
