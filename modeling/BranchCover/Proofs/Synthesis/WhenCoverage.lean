import BranchCover.Proofs.Oracle.Simulation
import BranchCover.Proofs.Plan.WhenEntry
import BranchCover.Proofs.Synthesis.Computation
import BranchCover.Proofs.Synthesis.Drive
import BranchCover.Proofs.Synthesis.IfLabels
import BranchCover.Synthesis.Basic

/-!
# Every `when` is covered entry by entry

A `when` gets one test for each entry that is no `else`, in the order of the entries, and one test
for its `else`, whether it has an `else` or not. The synthesis fails only on a literal of the `when`
that cannot be read: a case, the operand of an atom that is driven, or an integer in a body.

* `whenLabels`: the kinds and names of the tests of a `when`.
* `WhenReadable`: the literals that are read can be read.
* `branchTests_when`: the tests of a `when`, and when there are any.
-/

namespace BranchCover.Synthesis

/-- The kind and the name of a test. -/
def label (test : TestCase) : TestKind × String := (test.kind, test.name)

/-- The label of the test of an entry, which is named after its condition. -/
def entryLabel (target : Target) (entry : Branch) : TestKind × String :=
  (.whenEntry, target.testName ("When" ++ methodName (entry.condition.getD "")))

/-- The labels of the tests of the entries that are no `else`, in their order. -/
def entryLabels (target : Target) (entries : List Branch) : List (TestKind × String) :=
  (entries.filter (!·.isCatchAll)).map (entryLabel target)

/-- The label of the test of the `else`. -/
def elseLabel (target : Target) (entries : List Branch) : TestKind × String :=
  (.whenElse, target.testName
    (if entries.any (·.isCatchAll) then "WhenElse" else "WhenElseBranch"))

/-- The labels of the tests of a `when`. With a subject the `else` stands where the first one is
written, or else last; without a subject it always stands last. -/
def whenLabels (target : Target) (parent : Branch) (entries : List Branch) :
    List (TestKind × String) :=
  if parent.condition.getD "" = "" then entryLabels target entries ++ [elseLabel target entries]
  else
    entryLabels target (entries.takeWhile (!·.isCatchAll)) ++ elseLabel target entries ::
      entryLabels target (entries.dropWhile (!·.isCatchAll))

variable {settings : SynthesisSettings} {target : Target} {parent entry : Branch}

/-- An entry that is no `else` is not labelled `else`. -/
theorem condition_ne_else (hkind : entry.kind = .whenEntry) (hentry : entry.isCatchAll = false) :
    entry.condition.getD "" ≠ "else" := by
  intro hcondition
  cases hsome : entry.condition with
  | none =>
    rw [hsome] at hcondition
    exact absurd hcondition (by decide)
  | some text =>
    rw [hsome, Option.getD_some] at hcondition
    simp [Branch.isCatchAll, hkind, hsome, hcondition] at hentry

/-! ### Without a subject: one entry -/

/-- The assignment that is driven for an entry, if one makes its first case true. -/
def chosenAssignment (settings : SynthesisSettings) (entry : Branch) (rng : Twister) :
    Option (List Bool) :=
  if (firstCase entry).isEmpty then none
  else ((Plan.choose settings.planOptions (firstCase entry) rng).1.combinations.find?
    (·.outcome)).map (·.assignment)

/-- The generator behind the plan for an entry. -/
def afterEntry (settings : SynthesisSettings) (entry : Branch) (rng : Twister) : Twister :=
  if (firstCase entry).isEmpty then rng
  else (Plan.choose settings.planOptions (firstCase entry) rng).2

/-- The values that the test of an entry binds. -/
def entryValues (settings : SynthesisSettings) (target : Target) (entry : Branch) (rng : Twister) :
    Except Number.Error Bindings :=
  match chosenAssignment settings entry rng with
  | none => .ok target.neutralValues
  | some assignment =>
    (drive target.function (firstCase entry) assignment target.neutralValues).map (·.1)

theorem caseTests_run (settings : SynthesisSettings) (target : Target) (entry : Branch)
    (rng : Twister) :
    ∃ warnings, caseTests settings target entry rng =
      (entryValues settings target entry rng >>= caseTest settings target entry).map fun test =>
        ({ tests := [test], warnings }, afterEntry settings entry rng) := by
  unfold caseTests entryValues chosenAssignment afterEntry
  by_cases hempty : (firstCase entry).isEmpty = true
  · simp only [hempty, if_true, checking_bind, pure_run, ok_bind]
    exact ⟨_, bind_ok_eq_map _ _⟩
  · simp only [hempty, Bool.false_eq_true, if_false, drawing_bind]
    cases (Plan.choose settings.planOptions (firstCase entry) rng).1.combinations.find?
        (·.outcome) with
    | none =>
      simp only [checking_bind, pure_run, Option.map_none, ok_bind]
      exact ⟨_, bind_ok_eq_map _ _⟩
    | some chosen =>
      simp only [checking_bind, pure_run, Option.map_some]
      cases drive target.function (firstCase entry) chosen.assignment target.neutralValues with
      | error e => exact ⟨[], rfl⟩
      | ok found =>
        obtain ⟨values, truths⟩ := found
        have hvalues : (Except.ok (values, truths) : Except Number.Error _).map (·.1) =
          .ok values := rfl
        rw [hvalues]
        simp only [ok_bind]
        exact ⟨_, bind_ok_eq_map _ _⟩

/-- The literals that the test of an entry reads can be read. -/
def EntryReadable (settings : SynthesisSettings) (target : Target) (entry : Branch)
    (rng : Twister) :
    Prop :=
  (∀ assignment ∈ chosenAssignment settings entry rng,
    ∀ atom ∈ drivenAtoms target.function (shapesOf (firstCase entry)) assignment,
      AtomReadable target.function atom) ∧
  (settings.oracle = .exact → Oracle.BodyReadable target.function entry.body [])

theorem returns_entryValues_iff {rng : Twister} :
    Returns (entryValues settings target entry rng) ↔
      ∀ assignment ∈ chosenAssignment settings entry rng,
        ∀ atom ∈ drivenAtoms target.function (shapesOf (firstCase entry)) assignment,
          AtomReadable target.function atom := by
  unfold entryValues
  cases chosenAssignment settings entry rng with
  | none => simp
  | some assignment =>
    rw [returns_map_iff, returns_drive_iff (suitable_neutralValues target)]
    simp

theorem entryValues_suitable {rng : Twister} {values : Bindings}
    (h : entryValues settings target entry rng = .ok values) : Suitable target.function values := by
  unfold entryValues at h
  cases hchosen : chosenAssignment settings entry rng with
  | none =>
    rw [hchosen] at h
    obtain rfl := Except.ok.inj h
    exact suitable_neutralValues target
  | some assignment =>
    rw [hchosen] at h
    obtain ⟨⟨found, truths⟩, hdrive, rfl⟩ := map_eq_ok_iff.1 h
    exact drive_suitable (suitable_neutralValues target) hdrive

theorem returns_caseTest_iff {values : Bindings} (hvalues : Suitable target.function values)
    (hkind : entry.kind = .whenEntry) (hentry : entry.isCatchAll = false) :
    Returns (caseTest settings target entry values) ↔
      (settings.oracle = .exact → Oracle.BodyReadable target.function entry.body []) := by
  have hforEntry : Returns (Oracle.forWhenEntry settings.oracle target.function
      (entry.condition.getD "") values entry.body none) ↔
        (settings.oracle = .exact → entry.condition.getD "" ≠ "else" →
          Oracle.BodyReadable target.function entry.body values) := Oracle.returns_forWhenEntry_iff
  rw [← Oracle.bodyReadable_iff_nil fun name value hvalue =>
    (hvalues.readable name value hvalue).returns_parse]
  refine (returns_bind_of_returns fun _ => returns_ok _).trans (hforEntry.trans ?_)
  simp only [ne_eq, condition_ne_else hkind hentry, not_false_eq_true, true_imp_iff]

theorem label_caseTest {values : Bindings} {test : TestCase}
    (h : caseTest settings target entry values = .ok test) :
      label test = entryLabel target entry := by
  obtain ⟨assertions, -, h⟩ := bind_eq_ok_iff.1 h
  obtain rfl := Except.ok.inj h
  rfl

theorem returns_caseTests_iff {rng : Twister} (hkind : entry.kind = .whenEntry)
    (hentry : entry.isCatchAll = false) :
    Returns (caseTests settings target entry rng) ↔ EntryReadable settings target entry rng := by
  obtain ⟨warnings, hrun⟩ := caseTests_run settings target entry rng
  rw [hrun, returns_map_iff, returns_bind_iff, EntryReadable, ← returns_entryValues_iff]
  constructor
  · rintro ⟨values, hvalues, htest⟩
    exact ⟨⟨values, hvalues⟩,
      (returns_caseTest_iff (entryValues_suitable hvalues) hkind hentry).1 htest⟩
  · rintro ⟨⟨values, hvalues⟩, hbody⟩
    exact ⟨values, hvalues,
      (returns_caseTest_iff (entryValues_suitable hvalues) hkind hentry).2 hbody⟩

/-- An entry gets one test, named after its condition. -/
theorem caseTests_labels {rng rng' : Twister} {result : SynthesisResult}
    (h : caseTests settings target entry rng = .ok (result, rng')) :
    result.tests.map label = [entryLabel target entry] ∧ rng' = afterEntry settings entry rng := by
  obtain ⟨warnings, hrun⟩ := caseTests_run settings target entry rng
  rw [hrun] at h
  obtain ⟨test, htest, hpair⟩ := map_eq_ok_iff.1 h
  obtain ⟨rfl, rfl⟩ := Prod.mk.inj hpair
  obtain ⟨values, -, htest⟩ := bind_eq_ok_iff.1 htest
  exact ⟨by rw [List.map_singleton, label_caseTest htest], rfl⟩

/-! ### Without a subject: all entries -/

/-- The literals that the tests of several entries read can be read. -/
def EntriesReadable (settings : SynthesisSettings) (target : Target) :
    List Branch → Twister → Prop
  | [], _ => True
  | entry :: rest, rng =>
    EntryReadable settings target entry rng ∧
      EntriesReadable settings target rest (afterEntry settings entry rng)

theorem returns_allCaseTests_iff {entries : List Branch} {rng : Twister}
    (hentries : ∀ entry ∈ entries, entry.kind = .whenEntry ∧ entry.isCatchAll = false) :
    Returns (allCaseTests settings target entries rng) ↔
      EntriesReadable settings target entries rng := by
  induction entries generalizing rng with
  | nil => exact iff_of_true (returns_ok _) trivial
  | cons entry rest ih =>
    obtain ⟨hkind, hcatch⟩ := hentries entry (by simp)
    have hrest : ∀ rng, Returns (allCaseTests settings target rest rng) ↔
        EntriesReadable settings target rest rng := fun rng =>
      ih fun other hother => hentries other (by simp [hother])
    rw [allCaseTests, bind_run, returns_bind_iff, EntriesReadable,
      ← returns_caseTests_iff hkind hcatch]
    constructor
    · rintro ⟨⟨first, between⟩, hfirst, hothers⟩
      obtain ⟨-, rfl⟩ := caseTests_labels hfirst
      rw [bind_run] at hothers
      obtain ⟨others, hothers, -⟩ := returns_bind_iff.1 hothers
      exact ⟨⟨_, hfirst⟩, (hrest _).1 ⟨others, hothers⟩⟩
    · rintro ⟨⟨⟨first, between⟩, hfirst⟩, hothers⟩
      obtain ⟨-, rfl⟩ := caseTests_labels hfirst
      obtain ⟨others, hothers⟩ := (hrest _).2 hothers
      refine ⟨_, hfirst, ?_⟩
      rw [bind_run]
      exact returns_bind_iff.2 ⟨others, hothers, returns_ok _⟩

theorem allCaseTests_labels {entries : List Branch} {rng rng' : Twister} {result : SynthesisResult}
    (h : allCaseTests settings target entries rng = .ok (result, rng')) :
    result.tests.map label = entries.map (entryLabel target) := by
  induction entries generalizing rng rng' result with
  | nil =>
    obtain ⟨rfl, -⟩ := Prod.mk.inj (Except.ok.inj h)
    rfl
  | cons entry rest ih =>
    rw [allCaseTests, bind_run] at h
    obtain ⟨⟨first, between⟩, hfirst, h⟩ := bind_eq_ok_iff.1 h
    rw [bind_run] at h
    obtain ⟨⟨others, after⟩, hothers, h⟩ := bind_eq_ok_iff.1 h
    obtain ⟨rfl, -⟩ := Prod.mk.inj (Except.ok.inj h)
    rw [SynthesisResult.append, List.map_append, (caseTests_labels hfirst).1, ih hothers]
    rfl

/-! ### Without a subject: the `else` -/

/-- The atoms that are made false for the `else`. -/
def firstAtoms (entries : List Branch) : List Condition :=
  (entries.filter (!·.isCatchAll)).filterMap fun entry => (firstCase entry).head?

/-- The literals that the `else` reads can be read. -/
def ElseReadable (function : FunctionDecl) (atoms : List Condition) : Prop :=
  ∀ atom ∈ atoms, ∀ driven ∈ drivenAtoms function (shapesOf [atom]) [atom.negated],
    AtomReadable function driven

theorem returns_falsify_iff {function : FunctionDecl} {values : Bindings} {atoms : List Condition}
    (hvalues : Suitable function values) :
    Returns (falsify function values atoms) ↔ ElseReadable function atoms := by
  induction atoms generalizing values with
  | nil => exact iff_of_true (returns_ok _) (by simp [ElseReadable])
  | cons atom rest ih =>
    rw [falsify, returns_bind_iff, ElseReadable, List.forall_mem_cons, ← returns_drive_iff hvalues]
    constructor
    · rintro ⟨⟨next, truths⟩, hdrive, hrest⟩
      exact ⟨⟨_, hdrive⟩, (ih (drive_suitable hvalues hdrive)).1 hrest⟩
    · rintro ⟨⟨⟨next, truths⟩, hdrive⟩, hrest⟩
      exact ⟨_, hdrive, (ih (drive_suitable hvalues hdrive)).2 hrest⟩

theorem returns_elseTest_iff {entries : List Branch} :
    Returns (elseTest settings target entries) ↔
      ElseReadable target.function (firstAtoms entries) := by
  rw [← returns_falsify_iff (suitable_neutralValues target)]
  refine returns_bind_of_returns fun values => ?_
  -- the oracle leaves the `else` alone
  have hforEntry : Returns (Oracle.forWhenEntry settings.oracle target.function "else" values
      (((entries.filter (·.isCatchAll)).getLast?).bind (·.body)) none) :=
    Oracle.returns_forWhenEntry_iff.2 fun _ hne => absurd rfl hne
  exact (returns_bind_of_returns fun _ => returns_ok _).2 hforEntry

theorem label_elseTest {entries : List Branch} {test : TestCase}
    (h : elseTest settings target entries = .ok test) : label test = elseLabel target entries := by
  obtain ⟨values, -, h⟩ := bind_eq_ok_iff.1 h
  obtain ⟨assertions, -, h⟩ := bind_eq_ok_iff.1 h
  obtain rfl := Except.ok.inj h
  have hany : ((entries.filter (·.isCatchAll)).getLast?).isSome = entries.any (·.isCatchAll) := by
    rw [Bool.eq_iff_iff, List.getLast?_isSome, List.any_eq_true]
    constructor
    · intro hne
      obtain ⟨entry, hentry⟩ := List.exists_mem_of_ne_nil _ hne
      exact ⟨entry, (List.mem_filter.1 hentry).1, (List.mem_filter.1 hentry).2⟩
    · rintro ⟨entry, hentry, hcatch⟩
      exact List.ne_nil_of_mem (List.mem_filter.2 ⟨hentry, hcatch⟩)
  show (TestKind.whenElse, target.testName _) = _
  rw [hany]
  rfl

theorem returns_subjectlessWhenTests_iff {entries : List Branch} {rng : Twister}
    (hkinds : ∀ entry ∈ entries, entry.kind = .whenEntry) :
    Returns (subjectlessWhenTests settings target entries rng) ↔
      EntriesReadable settings target (entries.filter (!·.isCatchAll)) rng ∧
        ElseReadable target.function (firstAtoms entries) := by
  have hentries : ∀ entry ∈ entries.filter (!·.isCatchAll),
      entry.kind = .whenEntry ∧ entry.isCatchAll = false := by
    intro entry hentry
    obtain ⟨hmem, hcatch⟩ := List.mem_filter.1 hentry
    exact ⟨hkinds entry hmem, by simpa using hcatch⟩
  rw [← returns_allCaseTests_iff hentries, ← returns_elseTest_iff, subjectlessWhenTests, bind_run,
    returns_bind_iff]
  constructor
  · rintro ⟨⟨cases, after⟩, hcases, h⟩
    rw [checking_bind] at h
    obtain ⟨last, hlast, -⟩ := returns_bind_iff.1 h
    exact ⟨⟨_, hcases⟩, last, hlast⟩
  · rintro ⟨⟨⟨cases, after⟩, hcases⟩, last, hlast⟩
    refine ⟨_, hcases, ?_⟩
    rw [checking_bind]
    exact returns_bind_iff.2 ⟨last, hlast, returns_ok _⟩

theorem subjectlessWhenTests_labels {entries : List Branch} {rng rng' : Twister}
    {result : SynthesisResult}
    (h : subjectlessWhenTests settings target entries rng = .ok (result, rng')) :
    result.tests.map label = entryLabels target entries ++ [elseLabel target entries] := by
  rw [subjectlessWhenTests, bind_run] at h
  obtain ⟨⟨cases, after⟩, hcases, h⟩ := bind_eq_ok_iff.1 h
  rw [checking_bind] at h
  obtain ⟨last, hlast, h⟩ := bind_eq_ok_iff.1 h
  obtain ⟨rfl, -⟩ := Prod.mk.inj (Except.ok.inj h)
  rw [SynthesisResult.append, List.map_append, allCaseTests_labels hcases, List.map_singleton,
    label_elseTest hlast]
  rfl

/-! ### With a subject -/

/-- The values that the test of an entry binds, with the subject bound to the entry's value. -/
def subjectValues (target : Target) (parameter : Option Parameter) (value : EntryValue) :
    Bindings :=
  match parameter, value.value with
  | some parameter, some literal => target.neutralValues.set parameter.name literal
  | _, _ => target.neutralValues

/-- The entry that a value is for, the last one with its number. -/
def entryOf (entries : List Branch) (value : EntryValue) : Option Branch :=
  value.entryId.bind fun id => entries.reverse.find? (·.id == id)

/-- The label of the test for a value. -/
def valueLabel (target : Target) (entries : List Branch) (value : EntryValue) :
    TestKind × String :=
  (if value.isElse then .whenElse else .whenEntry,
    target.testName (if value.isElse && (entryOf entries value).isNone then "WhenElseBranch"
      else "When" ++ methodName value.label))

theorem entryTests_eq_mapM {parameter : Option Parameter} {entries : List Branch}
    (values : List EntryValue) :
    entryTests settings target parent parameter entries values =
      values.mapM (entryTest settings target parent parameter entries) := by
  induction values with
  | nil => rfl
  | cons value rest ih => rw [entryTests, List.mapM_cons, ih]

theorem label_entryTest {parameter : Option Parameter} {entries : List Branch} {value : EntryValue}
    {test : TestCase} (h : entryTest settings target parent parameter entries value = .ok test) :
    label test = valueLabel target entries value := by
  obtain ⟨assertions, -, h⟩ := bind_eq_ok_iff.1 h
  obtain rfl := Except.ok.inj h
  rfl

theorem returns_entryTest_iff {parameter : Option Parameter} {entries : List Branch}
    {value : EntryValue} :
    Returns (entryTest settings target parent parameter entries value) ↔
      (settings.oracle = .exact → value.label ≠ "else" →
        Oracle.BodyReadable target.function ((entryOf entries value).bind (·.body))
          (subjectValues target parameter value)) := by
  have hforEntry : Returns (Oracle.forWhenEntry settings.oracle target.function value.label
      (subjectValues target parameter value) ((entryOf entries value).bind (·.body))
      (parameter.map (·.name))) ↔
        (settings.oracle = .exact → value.label ≠ "else" →
          Oracle.BodyReadable target.function ((entryOf entries value).bind (·.body))
            (subjectValues target parameter value)) := Oracle.returns_forWhenEntry_iff
  rw [← hforEntry]
  exact returns_bind_of_returns fun _ => returns_ok _

theorem map_label_entryTests {parameter : Option Parameter} {entries : List Branch}
    {values : List EntryValue} {tests : List TestCase}
    (h : entryTests settings target parent parameter entries values = .ok tests) :
    tests.map label = values.map (valueLabel target entries) := by
  rw [entryTests_eq_mapM, mapM_eq_ok_iff] at h
  induction h with
  | nil => rfl
  | cons hfirst _ ih => rw [List.map_cons, List.map_cons, label_entryTest hfirst, ih]

/-- The tests stand in the order of the entries, with the `else` in place of the first one. -/
theorem map_valueLabel_arrange {literal : Option String} {entries written : List Branch}
    (hwritten : ∀ entry ∈ written, entry ∈ entries) :
    (WhenPlan.arrange literal written).map (valueLabel target entries) =
      entryLabels target (written.takeWhile (!·.isCatchAll)) ++ elseLabel target written ::
        entryLabels target (written.dropWhile (!·.isCatchAll)) := by
  induction written with
  | nil => rfl
  | cons entry rest ih =>
    rw [WhenPlan.arrange_cons]
    cases hcatch : entry.isCatchAll with
    | true =>
      have hfound : (entries.reverse.find? (·.id == entry.id)).isSome = true := by
        rw [List.find?_isSome]
        exact ⟨entry, List.mem_reverse.2 (hwritten entry List.mem_cons_self), by simp⟩
      have hname : "When" ++ methodName "else" = "WhenElse" := by decide +kernel
      simp [hcatch, entryLabels, elseLabel, valueLabel, entryOf, hname,
        Option.isNone_eq_false_iff.2 hfound, Function.comp_def, entryLabel, WhenPlan.valueOf]
    | false =>
      have hrest := ih fun other hother => hwritten other (List.mem_cons_of_mem _ hother)
      have hfirst : valueLabel target entries (WhenPlan.valueOf entry) = entryLabel target entry :=
        rfl
      simp only [Bool.false_eq_true, if_false, List.map_cons, hrest, hfirst]
      simp [hcatch, entryLabels, elseLabel]

/-- The type of the parameter that the subject of a `when` is, or nothing. -/
def subjectType (target : Target) (parent : Branch) : String :=
  ((subjectParameter? target.function (parent.condition.getD "")).map (·.typeName)).getD ""

/-- The literals that a `when` with a subject reads can be read: the cases of a numeric subject, and
what the exact oracle computes with. -/
def SubjectReadable (settings : SynthesisSettings) (target : Target) (parent : Branch)
    (entries : List Branch) : Prop :=
  (TypeText.base (subjectType target parent) ∈ TypeText.numericNames →
    ∀ entry ∈ entries, entry.isCatchAll = false →
      ∀ case ∈ WhenPlan.casesOf entry, WhenPlan.CaseReadable case) ∧
  (settings.oracle = .exact → ∀ entry ∈ entries, entry.isCatchAll = false →
    Oracle.BodyReadable target.function
      ((entryOf entries (WhenPlan.valueOf entry)).bind (·.body))
      (subjectValues target (subjectParameter? target.function (parent.condition.getD ""))
        (WhenPlan.valueOf entry)))

theorem subjectWhenTests_run (settings : SynthesisSettings) (target : Target) (parent : Branch)
    (entries : List Branch) (rng : Twister) :
    subjectWhenTests settings target parent entries rng =
      WhenPlan.make entries (subjectType target parent) settings.elseRetryLimit.toNat >>=
        fun draw =>
        (entryTests settings target parent
          (subjectParameter? target.function (parent.condition.getD "")) entries
          (draw rng).1.values) >>= fun tests =>
            .ok ({ tests, warnings :=
              if (draw rng).1.exhausted then
                [{ kind := .uniquenessRetryExhausted,
                   message := "No else value for when(" ++ parent.condition.getD "" ++ ") in "
                     ++ target.function.name ++ " avoids every entry",
                   file := some parent.file, line := some parent.line }]
              else [] }, (draw rng).2) := by
  simp only [subjectWhenTests, checking_bind, drawing_bind]
  rfl

/-- The tests for the values of a plan are made if the exact oracle can read the bodies of the
entries. -/
theorem returns_entryTests_iff {parameter : Option Parameter} {entries : List Branch}
    {literal : Option String} (hkinds : ∀ entry ∈ entries, entry.kind = .whenEntry) :
    Returns (entryTests settings target parent parameter entries
        (WhenPlan.arrange literal entries)) ↔
      (settings.oracle = .exact → ∀ entry ∈ entries, entry.isCatchAll = false →
        Oracle.BodyReadable target.function
          ((entryOf entries (WhenPlan.valueOf entry)).bind (·.body))
          (subjectValues target parameter (WhenPlan.valueOf entry))) := by
  rw [entryTests_eq_mapM, returns_mapM_iff]
  constructor
  · intro hall hexact entry hentry hcatch
    exact returns_entryTest_iff.1 (hall _ (WhenPlan.valueOf_mem_arrange hentry hcatch)) hexact
      (condition_ne_else (hkinds entry hentry) hcatch)
  · intro hbodies value hvalue
    refine returns_entryTest_iff.2 fun hexact hne => ?_
    rcases WhenPlan.mem_arrange hvalue with ⟨-, helse⟩ | ⟨entry, hentry, hcatch, rfl⟩
    · exact absurd helse hne
    · exact hbodies hexact entry hentry hcatch

theorem returns_subjectWhenTests_iff {entries : List Branch} {rng : Twister}
    (hkinds : ∀ entry ∈ entries, entry.kind = .whenEntry) :
    Returns (subjectWhenTests settings target parent entries rng) ↔
      SubjectReadable settings target parent entries := by
  rw [subjectWhenTests_run, returns_bind_iff, SubjectReadable, ← WhenPlan.returns_make_iff]
  constructor
  · rintro ⟨draw, hdraw, h⟩
    obtain ⟨literal, hvalues⟩ := WhenPlan.values_of_make hdraw rng
    have htests := (returns_bind_of_returns fun _ => returns_ok _).1 h
    rw [hvalues] at htests
    exact ⟨⟨draw, hdraw⟩, (returns_entryTests_iff hkinds).1 htests⟩
  · rintro ⟨⟨draw, hdraw⟩, hbodies⟩
    obtain ⟨literal, hvalues⟩ := WhenPlan.values_of_make hdraw rng
    refine ⟨draw, hdraw, (returns_bind_of_returns fun _ => returns_ok _).2 ?_⟩
    rw [hvalues]
    exact (returns_entryTests_iff hkinds).2 hbodies

theorem subjectWhenTests_labels {entries : List Branch} {rng rng' : Twister}
    {result : SynthesisResult}
    (h : subjectWhenTests settings target parent entries rng = .ok (result, rng')) :
    result.tests.map label =
      entryLabels target (entries.takeWhile (!·.isCatchAll)) ++ elseLabel target entries ::
        entryLabels target (entries.dropWhile (!·.isCatchAll)) := by
  rw [subjectWhenTests_run] at h
  obtain ⟨draw, hdraw, h⟩ := bind_eq_ok_iff.1 h
  obtain ⟨tests, htests, h⟩ := bind_eq_ok_iff.1 h
  obtain ⟨rfl, -⟩ := Prod.mk.inj (Except.ok.inj h)
  obtain ⟨literal, hvalues⟩ := WhenPlan.values_of_make hdraw rng
  rw [map_label_entryTests htests, hvalues, map_valueLabel_arrange fun entry hentry => hentry]

/-! ### Every `when` -/

/-- The literals that the tests of a `when` read can be read. -/
def WhenReadable (settings : SynthesisSettings) (target : Target) (parent : Branch)
    (entries : List Branch) (rng : Twister) : Prop :=
  if parent.condition.getD "" = "" then
    EntriesReadable settings target (entries.filter (!·.isCatchAll)) rng ∧
      ElseReadable target.function (firstAtoms entries)
  else SubjectReadable settings target parent entries

variable {model : Model}

theorem kind_of_mem_entriesFor (h : entry ∈ model.entriesFor parent) : entry.kind = .whenEntry := by
  have hmem := (List.mem_filter.1 h).2
  rw [Bool.and_eq_true] at hmem
  simpa using hmem.1

theorem branchTests_eq_whenTests (hkind : parent.kind = .when)
    (hne : model.entriesFor parent ≠ []) :
    branchTests settings model target parent =
      if parent.condition.getD "" = "" then
        subjectlessWhenTests settings target (model.entriesFor parent)
      else subjectWhenTests settings target parent (model.entriesFor parent) := by
  rw [branchTests, hkind]
  dsimp only
  rw [whenTests]
  split
  · rename_i hnil
    exact absurd hnil hne
  · rfl

theorem returns_branchTests_iff (hkind : parent.kind = .when) (hne : model.entriesFor parent ≠ [])
    (rng : Twister) :
    Returns (branchTests settings model target parent rng) ↔
      WhenReadable settings target parent (model.entriesFor parent) rng := by
  have hkinds : ∀ entry ∈ model.entriesFor parent, entry.kind = .whenEntry := fun entry hentry =>
    kind_of_mem_entriesFor hentry
  rw [branchTests_eq_whenTests hkind hne, WhenReadable]
  split_ifs
  · exact returns_subjectlessWhenTests_iff hkinds
  · exact returns_subjectWhenTests_iff hkinds

/-- **A `when` gets one test for each entry that is no `else`, in their order, and one for the
`else`, unless one of the literals that are read for them cannot be read.** -/
theorem branchTests_when (hkind : parent.kind = .when) (hne : model.entriesFor parent ≠ [])
    (rng : Twister) :
    (Returns (branchTests settings model target parent rng) ↔
      WhenReadable settings target parent (model.entriesFor parent) rng) ∧
    ∀ result rng', branchTests settings model target parent rng = .ok (result, rng') →
      result.tests.map label = whenLabels target parent (model.entriesFor parent) := by
  refine ⟨returns_branchTests_iff hkind hne rng, fun result rng' h => ?_⟩
  rw [branchTests_eq_whenTests hkind hne] at h
  unfold whenLabels
  split_ifs at h ⊢
  · exact subjectlessWhenTests_labels h
  · exact subjectWhenTests_labels h

/-! ### An example -/

/-- A function `f(x: Int)`. -/
def subjectTarget : Target := exampleTarget [{ name := "x", typeName := "Int" }]

/-- A `when` with `x` as its subject. -/
def exampleWhen : Branch := { exampleIf "x" none with kind := .when }

/-- A model with this `when`, whose entries have the given conditions. -/
def whenModel (conditions : List String) : Model where
  branches := exampleWhen :: conditions.mapIdx fun i condition =>
    { exampleIf condition none with id := i + 1, kind := .whenEntry, parentId := some 0 }

/-- The literals of short cases without bodies can be read. -/
theorem whenReadable_repeatedElse :
    WhenReadable { oracle := .exact } subjectTarget exampleWhen
      ((whenModel ["1, 2", "else", "in 5..9", "else"]).entriesFor exampleWhen) ⟨#[], 0⟩ := by
  have hcases : ∀ case ∈ ["1", "2", "in 5..9"], WhenPlan.CaseReadable case := by
    intro case hcase
    rw [← WhenPlan.returns_numericCase_iff]
    simp only [List.mem_cons, List.not_mem_nil, or_false] at hcase
    rcases hcase with rfl | rfl | rfl
    · exact ⟨some (.number (.integer 1)), by decide +kernel⟩
    · exact ⟨some (.number (.integer 2)), by decide +kernel⟩
    · exact ⟨some (.range 5 9 true), by decide +kernel⟩
  generalize hentries :
    (whenModel ["1, 2", "else", "in 5..9", "else"]).entriesFor exampleWhen = entries
  have hused : ∀ entry ∈ entries, entry.isCatchAll = false →
      ∀ case ∈ WhenPlan.casesOf entry, case ∈ ["1", "2", "in 5..9"] := by
    rw [← hentries]
    decide +kernel
  have hbodies : ∀ entry ∈ entries,
      (entryOf entries (WhenPlan.valueOf entry)).bind (·.body) = none := by
    rw [← hentries]
    decide +kernel
  rw [WhenReadable, if_neg (by decide)]
  refine ⟨fun _ entry hentry hcatch case hcase =>
    hcases case (hused entry hentry hcatch case hcase),
    fun _ entry hentry _ => ?_⟩
  rw [hbodies entry hentry]
  have hoperands : Oracle.bodyOperands "" = [] := by decide +kernel
  intro _ a ha
  exact absurd (hoperands ▸ ha) List.not_mem_nil

/-- An `else` before and behind an entry gives one test, in its first place. -/
theorem branchTests_when_repeatedElse :
    exampleWhen.kind = .when ∧
      (whenModel ["1, 2", "else", "in 5..9", "else"]).entriesFor exampleWhen ≠ [] ∧
      ∃ result rng', branchTests { oracle := .exact }
        (whenModel ["1, 2", "else", "in 5..9", "else"])
          subjectTarget exampleWhen ⟨#[], 0⟩ = .ok (result, rng') ∧
        result.tests.map label = [(.whenEntry, "testFWhen12"), (.whenElse, "testFWhenElse"),
          (.whenEntry, "testFWhenIn59")] := by
  have hne : (whenModel ["1, 2", "else", "in 5..9", "else"]).entriesFor exampleWhen ≠ [] := by
    decide +kernel
  obtain ⟨⟨result, rng'⟩, hresult⟩ :=
    (branchTests_when rfl hne ⟨#[], 0⟩).1.2 whenReadable_repeatedElse
  refine ⟨rfl, hne, result, rng', hresult, ?_⟩
  rw [(branchTests_when rfl hne ⟨#[], 0⟩).2 result rng' hresult]
  decide +kernel

theorem entriesFor_whenModel (condition : String) :
    (whenModel [condition, "else"]).entriesFor exampleWhen =
      [{ exampleIf condition none with id := 1, kind := .whenEntry, parentId := some 0 },
       { exampleIf "else" none with id := 2, kind := .whenEntry, parentId := some 0 }] := rfl

/-- The tests with a row of ones as a case are made only up to the most digits. -/
theorem length_le_of_returns_branchTests {n : ℕ} {rng : Twister}
    (h : Returns (branchTests {} (whenModel [String.ofList (List.replicate (n + 1) '1'), "else"])
      subjectTarget exampleWhen rng)) : n + 1 ≤ Text.maxIntegerDigits := by
  generalize hones : String.ofList (List.replicate (n + 1) '1') = ones at h
  have hcatch : ones ≠ "else" := hones ▸ WhenPlan.ones_ne_else n
  rw [returns_branchTests_iff rfl (by rw [entriesFor_whenModel]; exact List.cons_ne_nil _ _),
    WhenReadable, if_neg (by decide), entriesFor_whenModel] at h
  have hcase : WhenPlan.CaseReadable ones := by
    refine h.1 (by decide) _ List.mem_cons_self (by simpa [Branch.isCatchAll, exampleIf]) ones ?_
    rw [WhenPlan.casesOf_ones (congrArg some hones.symm), hones]
    exact List.mem_singleton_self ones
  rw [← hones] at hcase
  exact (WhenPlan.caseReadable_ones_iff n).1 hcase

/-- A case of 4301 digits is more than is read, and no test is made. -/
theorem branchTests_uncovered_longCase :
    (whenModel [String.ofList (List.replicate 4301 '1'), "else"]).entriesFor exampleWhen ≠ [] ∧
      ¬ Returns (branchTests {} (whenModel [String.ofList (List.replicate 4301 '1'), "else"])
        subjectTarget exampleWhen ⟨#[], 0⟩) := by
  refine ⟨?_, fun hreturns => ?_⟩
  · rw [entriesFor_whenModel]
    exact List.cons_ne_nil _ _
  · exact absurd (length_le_of_returns_branchTests hreturns) (by decide)

end BranchCover.Synthesis
