import BranchCover.Proofs.Oracle.Messages
import BranchCover.Proofs.Suite.Grouping
import BranchCover.Proofs.Synthesis.Run
import BranchCover.Proofs.Text.Lines
import BranchCover.Suite.Render

/-!
# Source texts in comments

The comments of a test hold texts of the tested source as they are written: the name of the
function, the condition of an `if`, the conditions of the entries of a `when`, and the subject of a
`when` without an `else`. So a comment stays on its line exactly if these texts do. The messages
that are string literals always do.

* `TestCase.commentLines`: the lines of a test with a comment.
* `commentedTexts`: the source texts that the comments hold.
* `Suite.lines_source`: the lines of a written suite.
* `oneLine_commentLines_iff`: the models whose comments stay on their lines.
-/

namespace BranchCover

/-- The lines of a test with a comment, not indented: its notes, and the assertions whose messages
are comments. -/
def TestCase.commentLines (test : TestCase) : List String :=
  test.notes.map ("// " ++ ·) ++ (test.assertions.filter (·.isCommented)).flatMap Assertion.render

theorem TestCase.oneLine_commentLines_iff {test : TestCase} :
    (∀ line ∈ test.commentLines, OneLine line) ↔
      (∀ note ∈ test.notes, OneLine note) ∧ Assertion.CommentsOneLine test.assertions := by
  have hmark : OneLine "// " := by decide
  unfold commentLines
  rw [List.forall_mem_append, List.forall_mem_map]
  refine and_congr (by simp [hmark]) ?_
  simp only [List.mem_flatMap, List.mem_filter]
  constructor
  · intro h assertion hassertion hcommented
    exact (Assertion.oneLine_render_iff hcommented).1 fun line hline =>
      h line ⟨assertion, ⟨hassertion, hcommented⟩, hline⟩
  · rintro h line ⟨assertion, ⟨hassertion, hcommented⟩, hline⟩
    exact (Assertion.oneLine_render_iff hcommented).2 (h assertion hassertion hcommented) line hline

namespace Suite

/-! ### The lines of a written suite -/

/-- The lines of a written suite are those of its parts. -/
theorem lines_source (suite : Suite) :
    Text.lines suite.render.source.toList = suite.lines.flatMap fun line =>
      Text.lines line.toList := by
  have hne : suite.lines.map String.toList ≠ [] := by simp [lines]
  show Text.lines ("\n".intercalate suite.lines).toList = _
  rw [String.toList_intercalate]
  refine (Text.lines_intercalate hne).trans ?_
  rw [List.flatMap_map]

theorem indent_mem_testLines {test : TestCase} {line : String} (h : line ∈ test.commentLines) :
    indent line ∈ testLines test := by
  unfold testLines
  rcases List.mem_append.1 h with h | h
  · obtain ⟨note, hnote, rfl⟩ := List.mem_map.1 h
    simp only [List.mem_append, List.mem_map]
    exact Or.inl (Or.inl (Or.inl (Or.inr ⟨note, hnote, rfl⟩)))
  · obtain ⟨assertion, hassertion, hline⟩ := List.mem_flatMap.1 h
    have hmem := (List.mem_filter.1 hassertion).1
    simp only [List.mem_append, List.mem_map]
    exact Or.inl (Or.inr ⟨line, List.mem_flatMap.2 ⟨assertion, hmem, hline⟩, rfl⟩)

theorem mem_lines_of_mem_testLines {suite : Suite} {test : TestCase} {line : String}
    (htest : test ∈ suite.tests)
    (hline : line ∈ testLines test) (hne : line ≠ "") : indent line ∈ suite.lines := by
  unfold lines
  have hmem : indent line ∈ suite.tests.flatMap fun test =>
      "" :: (testLines test).map fun line => if line = "" then "" else indent line := by
    refine List.mem_flatMap.2 ⟨test, htest,
      List.mem_cons_of_mem _ (List.mem_map.2 ⟨line, hline, ?_⟩)⟩
    rw [if_neg hne]
  simp only [List.mem_append]
  exact Or.inl (Or.inr hmem)

/-- A comment is a line of the written suite exactly if it has no line feed. -/
theorem mem_lines_source_iff {suite : Suite} {test : TestCase} {line : String}
    (htest : test ∈ suite.tests)
    (hline : line ∈ test.commentLines) :
    (indent (indent line)).toList ∈ Text.lines suite.render.source.toList ↔ OneLine line := by
  have hindent : OneLine "    " := by decide
  have hline' : OneLine (indent (indent line)) ↔ OneLine line := by simp [indent, hindent]
  rw [← hline']
  constructor
  · exact Text.newline_notMem_of_mem_lines
  · intro hone
    have hne : indent line ≠ "" := by
      intro h
      have hlength := congrArg String.length h
      simp [indent] at hlength
    have hmem := mem_lines_of_mem_testLines htest (indent_mem_testLines hline) hne
    rw [lines_source]
    refine List.mem_flatMap.2 ⟨_, hmem, ?_⟩
    rw [Text.lines_eq_singleton hone]
    exact List.mem_singleton_self _

end Suite

namespace Synthesis

/-! ### The source texts in comments -/

variable {settings : SynthesisSettings} {model : Model} {function : FunctionDecl} {target : Target}
  {branch entry : Branch} {test : TestCase}

/-- The source texts that the comments in the tests of a branch hold. -/
def branchTexts (settings : SynthesisSettings) (model : Model) (branch : Branch) : List String :=
  match branch.kind with
  | .ifBranch => if isPlanned settings branch then [branch.condition.getD ""] else []
  | .when =>
    let entries := model.entriesFor branch
    ((entries.filter (!·.isCatchAll)).map fun entry => entry.condition.getD "")
      ++ if entries.isEmpty || entries.any (·.isCatchAll) then [] else [branch.condition.getD ""]
  | .whenEntry => []

/-- The source texts that the comments in the tests of a model hold. -/
def commentedTexts (settings : SynthesisSettings) (model : Model) : List String :=
  (model.functions.filter fun function =>
    isTestable function (ownerOf model function)).flatMap fun function =>
    function.name :: (model.branchesFor function).flatMap (branchTexts settings model)

theorem mem_branchTexts_if (hkind : branch.kind = .ifBranch) {text : String} :
    text ∈ branchTexts settings model branch ↔
      isPlanned settings branch = true ∧ text = branch.condition.getD "" := by
  simp [branchTexts, hkind]

theorem mem_branchTexts_when (hkind : branch.kind = .when) {text : String} :
    text ∈ branchTexts settings model branch ↔
      (∃ entry ∈ model.entriesFor branch, entry.isCatchAll = false ∧
        entry.condition.getD "" = text) ∨
      model.entriesFor branch ≠ [] ∧ (∀ entry ∈ model.entriesFor branch, entry.isCatchAll = false) ∧
        text = branch.condition.getD "" := by
  have hentries : (model.entriesFor branch).isEmpty = true ∨
    (model.entriesFor branch).any (·.isCatchAll) = true ↔
      ¬ (model.entriesFor branch ≠ [] ∧ ∀ entry ∈ model.entriesFor branch,
        entry.isCatchAll = false) := by
    simp only [List.isEmpty_iff, List.any_eq_true, not_and_or, not_not, not_forall,
      Bool.not_eq_false, exists_prop, ne_eq]
  simp only [branchTexts, hkind, List.mem_append, List.mem_map, List.mem_filter, Bool.not_eq_true',
    Bool.or_eq_true, hentries, and_assoc]
  refine or_congr_right ?_
  by_cases hnone : model.entriesFor branch ≠ [] ∧ ∀ entry ∈ model.entriesFor branch,
    entry.isCatchAll = false
  · simp [hnone]
  · rw [if_pos hnone, ← and_assoc]
    exact iff_of_false List.not_mem_nil fun h => hnone h.1

theorem oneLine_getD_iff {condition : Option String} :
    OneLine (condition.getD "None") ↔ OneLine (condition.getD "") := by
  cases condition with
  | none => decide
  | some text => rfl

/-! ### The comments of a test -/

theorem oneLine_outcomeNote_iff {outcome : Bool} :
    OneLine (outcomeNote branch outcome) ↔ OneLine (branch.condition.getD "") := by
  have hbefore : OneLine "Testing branch coverage for condition: '" := by decide
  have hbetween : OneLine "' is " := by decide
  have hlabel : OneLine (if outcome = true then "TRUE" else "FALSE") := by cases outcome <;> decide
  unfold outcomeNote
  constructor
  · intro h
    exact (oneLine_append.1 (oneLine_append.1 (oneLine_append.1 h).1).1).2
  · intro h
    exact oneLine_append.2 ⟨oneLine_append.2 ⟨oneLine_append.2 ⟨hbefore, h⟩, hbetween⟩, hlabel⟩

theorem oneLine_entryNote_iff {text : String} : OneLine (entryNote text) ↔ OneLine text := by
  have hbefore : OneLine "Testing when branch: " := by decide
  unfold entryNote
  exact ⟨fun h => (oneLine_append.1 h).2, fun h => oneLine_append.2 ⟨hbefore, h⟩⟩

theorem oneLine_unwrittenNote_iff : OneLine (unwrittenNote branch) ↔
    OneLine (branch.condition.getD "") := by
  have hbefore : OneLine "Testing when else branch of when(" := by decide
  have hbehind : OneLine ")" := by decide
  unfold unwrittenNote
  constructor
  · intro h
    exact (oneLine_append.1 (oneLine_append.1 h).1).2
  · intro h
    exact oneLine_append.2 ⟨oneLine_append.2 ⟨hbefore, h⟩, hbehind⟩

/-- The note of the test that only calls a function. -/
def basicNote (function : FunctionDecl) : String := "Basic invocation of " ++ function.name

theorem oneLine_basicNote_iff : OneLine (basicNote function) ↔ OneLine function.name := by
  have hbefore : OneLine "Basic invocation of " := by decide
  unfold basicNote
  exact ⟨fun h => (oneLine_append.1 h).2, fun h => oneLine_append.2 ⟨hbefore, h⟩⟩

theorem notes_basicTest (target : Target) (rng : Twister) :
    (target.basicTest rng).1.notes = [basicNote target.function] := rfl

theorem assertions_basicTest (target : Target) (rng : Twister) :
    (target.basicTest rng).1.assertions = Oracle.forBasic target.function := by
  have hassertions : ∀ name kind values assertions notes,
      (target.testCase name kind values assertions notes).assertions = assertions :=
      fun _ _ _ _ _ => rfl
  exact hassertions _ _ _ _ _

theorem subjectTest_eq_ok {value : EntryValue}
    (h : subjectTest settings model target branch value = .ok test) :
    test.notes = [if value.isElse && (entryOf (model.entriesFor branch) value).isNone then
      unwrittenNote branch
        else entryNote value.label] ∧
      ∃ mode bindings body subjectName,
        Oracle.forWhenEntry mode target.function value.label bindings body subjectName =
          .ok test.assertions := by
  rw [subjectTest, entryTest_eq] at h
  obtain ⟨assertions, hassertions, rfl⟩ := map_eq_ok_iff.1 h
  exact ⟨rfl, _, _, _, _, hassertions⟩

/-- The texts of an entry's value are among those of the `when`. -/
theorem oneLine_label (hkind : branch.kind = .when)
    (htexts : ∀ text ∈ branchTexts settings model branch, OneLine text) {value : EntryValue}
    (hvalue : EntryValueOf model branch value) : OneLine value.label := by
  obtain ⟨literal, hvalue⟩ := hvalue
  rcases WhenPlan.mem_arrange hvalue with ⟨-, helse⟩ | ⟨entry, hentry, hcatch, rfl⟩
  · rw [helse]
    decide
  · exact htexts _ ((mem_branchTexts_when hkind).2 (Or.inl ⟨entry, hentry, hcatch, rfl⟩))

/-- Where the `else` is not written, the subject is among the texts of the `when`. -/
theorem oneLine_subject (hkind : branch.kind = .when) (hne : model.entriesFor branch ≠ [])
    (htexts : ∀ text ∈ branchTexts settings model branch, OneLine text) {value : EntryValue}
    (hvalue : EntryValueOf model branch value)
    (hunwritten : (value.isElse && (entryOf (model.entriesFor branch) value).isNone) = true) :
    OneLine (branch.condition.getD "") := by
  obtain ⟨literal, hvalue⟩ := hvalue
  obtain ⟨helse, hnone⟩ := Bool.and_eq_true_iff.1 hunwritten
  rcases WhenPlan.entryId_of_isElse hvalue helse with hall | ⟨entry, hentry, hid⟩
  · exact htexts _ ((mem_branchTexts_when hkind).2 (Or.inr ⟨hne, hall, rfl⟩))
  · have hfound : (entryOf (model.entriesFor branch) value).isSome = true := by
      rw [entryOf, hid, Option.bind_some, List.find?_isSome]
      exact ⟨entry, List.mem_reverse.2 hentry, by simp⟩
    rw [Option.isNone_iff_eq_none.1 hnone] at hfound
    cases hfound

/-- **The comments of a test of a branch stay on their lines if the texts of the branch do.** -/
theorem BranchTest.oneLine (h : BranchTest settings model target branch test)
    (htexts : ∀ text ∈ branchTexts settings model branch, OneLine text) :
    ∀ line ∈ test.commentLines, OneLine line := by
  rw [TestCase.oneLine_commentLines_iff]
  cases h with
  | ofIf values truths hkind hplanned h =>
    have hcondition := htexts _ ((mem_branchTexts_if hkind).2 ⟨hplanned, rfl⟩)
    obtain ⟨assertions, hassertions, rfl⟩ := ifTest_eq_ok h
    exact ⟨List.forall_mem_singleton.2 (oneLine_outcomeNote_iff.2 hcondition),
      Oracle.commentsOneLine_forBranch hcondition hassertions⟩
  | ofValue value hkind _ hne hvalue h =>
    have hlabel := oneLine_label hkind htexts hvalue
    obtain ⟨hnotes, _, _, _, _, hassertions⟩ := subjectTest_eq_ok h
    refine ⟨?_, Oracle.commentsOneLine_forWhenEntry hlabel hassertions⟩
    rw [hnotes, List.forall_mem_singleton]
    split_ifs with hunwritten
    · exact oneLine_unwrittenNote_iff.2 (oneLine_subject hkind hne htexts hvalue hunwritten)
    · exact oneLine_entryNote_iff.2 hlabel
  | ofCase entry values hkind _ hentry hcatch h =>
    have hcondition := htexts _ ((mem_branchTexts_when hkind).2
      (Or.inl ⟨entry, hentry, hcatch, rfl⟩))
    obtain ⟨hnotes, hassertions⟩ := caseTest_eq_ok h
    refine ⟨?_, Oracle.commentsOneLine_forWhenEntry hcondition hassertions⟩
    rw [hnotes, List.forall_mem_singleton, oneLine_entryNote_iff, oneLine_getD_iff]
    exact hcondition
  | ofElse _ _ _ h =>
    have hnote : OneLine "Testing when else branch" := by decide
    have helse : OneLine "else" := by decide
    obtain ⟨values, -, h⟩ := bind_eq_ok_iff.1 h
    obtain ⟨assertions, hassertions, h⟩ := bind_eq_ok_iff.1 h
    obtain rfl := Except.ok.inj h
    exact ⟨List.forall_mem_singleton.2 hnote, Oracle.commentsOneLine_forWhenEntry helse hassertions⟩

theorem FunctionTest.oneLine (h : FunctionTest settings model function target test)
    (htarget : IsTarget model function target) (hname : OneLine function.name)
    (htexts : ∀ branch ∈ model.branchesFor function, ∀ text ∈ branchTexts settings model branch,
      OneLine text) :
    ∀ line ∈ test.commentLines, OneLine line := by
  cases h with
  | ofCall rng h =>
    subst h
    rw [TestCase.oneLine_commentLines_iff, notes_basicTest, List.forall_mem_singleton,
      oneLine_basicNote_iff, htarget.function, assertions_basicTest]
    exact ⟨hname, Oracle.commentsOneLine_forBasic⟩
  | ofBranch branch hbranch h => exact h.oneLine (htexts branch hbranch)

/-! ### The texts of a branch in its notes -/

section
variable {before after : Twister} {part : SynthesisResult}

theorem oneLine_of_ifTests (h : ifTests settings target branch before = .ok (part, after))
    (hplanned : isPlanned settings branch = true)
    (hnotes : ∀ test ∈ part.tests, ∀ note ∈ test.notes, OneLine note) :
      OneLine (branch.condition.getD "") := by
  obtain ⟨test, htest⟩ := List.exists_mem_of_ne_nil _ ((tests_ifTests_ne_nil_iff h).2 hplanned)
  rcases tests_ifTests h with ⟨-, hnil⟩ | ⟨-, htests⟩
  · rw [hnil] at htest
    cases htest
  · obtain ⟨values, truths, hmade⟩ := exists_ifTest_of_mem htests htest
    obtain ⟨assertions, -, rfl⟩ := ifTest_eq_ok hmade
    exact oneLine_outcomeNote_iff.1 (hnotes _ htest _ (List.mem_singleton_self _))

theorem oneLine_of_subjectlessWhenTests {entries : List Branch}
    (h : subjectlessWhenTests settings target entries before = .ok (part, after))
    (hnotes : ∀ test ∈ part.tests, ∀ note ∈ test.notes, OneLine note) (hentry : entry ∈ entries)
    (hcatch : entry.isCatchAll = false) : OneLine (entry.condition.getD "") := by
  obtain ⟨cases, _, last, hcases, -, htests⟩ := tests_subjectlessWhenTests h
  obtain ⟨_, made, _, hmade, hsubset⟩ :=
    exists_step_runAll hcases (List.mem_filter.2 ⟨hentry, by simpa using hcatch⟩)
  obtain ⟨values, test, htest, hpart⟩ := tests_caseTests hmade
  have hmem : test ∈ part.tests := by
    rw [htests]
    exact List.mem_append_left _ (hsubset (by simp [hpart]))
  have hnote := hnotes test hmem
  rw [(caseTest_eq_ok htest).1, List.forall_mem_singleton, oneLine_entryNote_iff,
    oneLine_getD_iff] at hnote
  exact hnote

theorem oneLine_of_subjectWhenTests
    (h : subjectWhenTests settings target branch (model.entriesFor branch) before =
      .ok (part, after))
    (hnotes : ∀ test ∈ part.tests, ∀ note ∈ test.notes, OneLine note) :
    (∀ entry ∈ model.entriesFor branch, entry.isCatchAll = false →
      OneLine (entry.condition.getD "")) ∧
      ((∀ entry ∈ model.entriesFor branch, entry.isCatchAll = false) →
        OneLine (branch.condition.getD "")) := by
  obtain ⟨literal, htests⟩ := tests_subjectWhenTests h
  have hnote : ∀ value ∈ WhenPlan.arrange literal (model.entriesFor branch),
      OneLine (if value.isElse && (entryOf (model.entriesFor branch) value).isNone then
        unwrittenNote branch
        else entryNote value.label) := by
    intro value hvalue
    obtain ⟨test, htest, hmade⟩ := exists_mem_of_mapM htests hvalue
    have hnote := hnotes test htest
    rw [(subjectTest_eq_ok hmade).1, List.forall_mem_singleton] at hnote
    exact hnote
  constructor
  · intro entry hentry hcatch
    have hentryNote := hnote _ (WhenPlan.valueOf_mem_arrange hentry hcatch)
    exact oneLine_entryNote_iff.1 hentryNote
  · intro hnone
    have helseNote := hnote _ (WhenPlan.unwritten_mem_arrange hnone)
    exact oneLine_unwrittenNote_iff.1 helseNote

/-- **The texts of a branch stay on their lines if the notes of its tests do.** -/
theorem oneLine_branchTexts
    (h : branchTests settings model target branch before = .ok (part, after))
    (hnotes : ∀ test ∈ part.tests, ∀ note ∈ test.notes, OneLine note) :
    ∀ text ∈ branchTexts settings model branch, OneLine text := by
  intro text htext
  cases hkind : branch.kind with
  | ifBranch =>
    obtain ⟨hplanned, rfl⟩ := (mem_branchTexts_if hkind).1 htext
    simp only [branchTests, hkind] at h
    exact oneLine_of_ifTests h hplanned hnotes
  | whenEntry => simp [branchTexts, hkind] at htext
  | when =>
    rcases (mem_branchTexts_when hkind).1 htext with ⟨entry, hentry, hcatch, rfl⟩ |
      ⟨hne, hnone, rfl⟩
    · rw [branchTests_eq_whenTests hkind (List.ne_nil_of_mem hentry)] at h
      split_ifs at h
      · exact oneLine_of_subjectlessWhenTests h hnotes hentry hcatch
      · exact (oneLine_of_subjectWhenTests h hnotes).1 entry hentry hcatch
    · rw [branchTests_eq_whenTests hkind hne] at h
      split_ifs at h with hsubject
      · rw [hsubject]
        decide
      · exact (oneLine_of_subjectWhenTests h hnotes).2 hnone

end

/-! ### The comments of a model -/

variable {result : SynthesisResult}

theorem mem_commentedTexts {text : String} :
    text ∈ commentedTexts settings model ↔
      ∃ function ∈ model.functions, isTestable function (ownerOf model function) = true ∧
        (text = function.name ∨
          ∃ branch ∈ model.branchesFor function, text ∈ branchTexts settings model branch) := by
  simp [commentedTexts, and_assoc]

theorem oneLine_synthesize_iff (h : synthesize settings model = .ok result) :
    (∀ test ∈ result.tests, ∀ line ∈ test.commentLines, OneLine line) ↔
      ∀ text ∈ commentedTexts settings model, OneLine text := by
  constructor
  · intro hlines text htext
    have hnotes : ∀ test ∈ result.tests, ∀ note ∈ test.notes, OneLine note := fun test htest =>
      (TestCase.oneLine_commentLines_iff.1 (hlines test htest)).1
    obtain ⟨function, hmem, htestable, htext⟩ := mem_commentedTexts.1 htext
    obtain ⟨target, htarget, ⟨rng, hbasic⟩, hbranches⟩ := exists_target_synthesize h hmem htestable
    rcases htext with rfl | ⟨branch, hbranch, htext⟩
    · have hnote := hnotes _ hbasic
      rw [notes_basicTest, List.forall_mem_singleton, oneLine_basicNote_iff,
        htarget.function] at hnote
      exact hnote
    · obtain ⟨before, part, after, hpart, hsubset⟩ := hbranches branch hbranch
      exact oneLine_branchTexts hpart (fun test htest => hnotes test (hsubset htest)) text htext
  · intro htexts test htest
    obtain ⟨function, hmem, htestable, target, htarget, horigin⟩ :=
      exists_origin_of_mem_synthesize h htest
    refine horigin.oneLine htarget ?_ fun branch hbranch text htext => ?_
    · exact htexts _ (mem_commentedTexts.2 ⟨function, hmem, htestable, Or.inl rfl⟩)
    · exact htexts _ (mem_commentedTexts.2 ⟨function, hmem, htestable,
        Or.inr ⟨branch, hbranch, htext⟩⟩)

/-- **The comments of the tests of a model stay on their lines exactly if the source texts that they
hold do. A comment that does is one line of the written suite, and every other message is a string
literal on one line.** -/
theorem comments_oneLine_iff (h : synthesize settings model = .ok result)
    (defaultPackage : String) :
    ((∀ test ∈ result.tests, ∀ line ∈ test.commentLines, OneLine line) ↔
      ∀ text ∈ commentedTexts settings model, OneLine text) ∧
    (∀ suite ∈ Suite.group result.tests defaultPackage, ∀ test ∈ suite.tests,
      ∀ line ∈ test.commentLines,
      ((Suite.indent (Suite.indent line)).toList ∈ Text.lines suite.render.source.toList ↔
        OneLine line)) ∧
    ∀ assertion : Assertion, assertion.isCommented = false → ∃ code, ∀ message, message ≠ "" →
      { assertion with message }.render = [code ++ ", " ++ Literal.quote message ++ ")"] ∧
        OneLine (Literal.quote message) ∧
        Literal.isString (Literal.quote message).toList = true := by
  refine ⟨oneLine_synthesize_iff h, fun suite _ test htest line hline => ?_,
    fun assertion hquoted => ?_⟩
  · exact Suite.mem_lines_source_iff htest hline
  · obtain ⟨code, hcode⟩ := Assertion.render_quoted hquoted
    exact ⟨code, fun message hmessage =>
      ⟨hcode message hmessage, Literal.oneLine_quote message, Literal.isString_quote message⟩⟩

/-- A model with a function that has one `if`. -/
def ifModel (condition : String) : Model where
  functions := [(exampleTarget []).function]
  branches := [exampleIf condition none]

/-- The comments on a condition that is written on one line. -/
theorem comments_oneLine_iff_joined :
    ∃ result, synthesize {} (ifModel "a > 0 && b > 0") = .ok result ∧ result.tests.length = 5 ∧
      ∀ test ∈ result.tests, ∀ line ∈ test.commentLines, OneLine line := by
  have hlength : (synthesize {} (ifModel "a > 0 && b > 0")).map (fun result =>
      result.tests.length) = .ok 5 := by
    decide +kernel
  obtain ⟨result, hresult, hlength⟩ := map_eq_ok_iff.1 hlength
  have htexts : ∀ text ∈ commentedTexts {} (ifModel "a > 0 && b > 0"), OneLine text := by
    decide +kernel
  exact ⟨result, hresult, hlength, (comments_oneLine_iff hresult "generated").1.2 htexts⟩

/-- A condition that is written on two lines ends the comments on it after the first. -/
theorem comments_broken :
    ∃ result, synthesize {} (ifModel "a > 0 &&\n        b > 0") = .ok result ∧
      ∃ test ∈ result.tests, ∃ line ∈ test.commentLines, ¬ OneLine line := by
  have hbroken : (synthesize {} (ifModel "a > 0 &&\n        b > 0")).map (fun result =>
      result.tests.any fun test => test.commentLines.any fun line =>
        !decide (OneLine line)) = .ok true := by
    decide +kernel
  obtain ⟨result, hresult, hany⟩ := map_eq_ok_iff.1 hbroken
  obtain ⟨test, htest, hany⟩ := List.any_eq_true.1 hany
  obtain ⟨line, hline, hbroken⟩ := List.any_eq_true.1 hany
  exact ⟨result, hresult, test, htest, line, hline, by simpa using hbroken⟩

end Synthesis

end BranchCover
