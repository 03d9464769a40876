import BranchCover.Proofs.Condition.Shape
import BranchCover.Proofs.Synthesis.IfLabels

/-!
# Full coverage of comparisons with integer literals

Where the atoms of a condition compare different integral parameters with literals strictly between
the bounds of their types, each truth assignment can be driven, so the exhaustive plan gives one
test for each assignment. The synthesis fails in one case only: the exact oracle meets an integer
with too many digits in the body of the branch.

* `Comparisons`: the conditions that this is about.
* `drive_comparisons`: every assignment is reached.
* `ifTests_covers`: the tests of such an `if`, and when there are any.
-/

namespace BranchCover.Synthesis

/-- An identifier: word characters that start with no digit, or any text between backquotes. -/
def IsName (name : String) : Prop :=
  (∃ c rest, name.toList = c :: rest ∧ Text.isWord c = true ∧ Text.isDecimal c = false ∧
    ∀ d ∈ rest, Text.isWord d = true) ∨
  ∃ text, name.toList = '`' :: text ++ ['`']

/-- An atom compares a parameter of an integral type with an integer literal strictly between the
bounds of the type. -/
def ComparesInside (function : FunctionDecl) (atom : Condition) (parameter : Parameter) : Prop :=
  parameter ∈ function.parameters ∧ parameter.isVariadic = false ∧
    ∃ operator operand least greatest k,
      AtomShape.of? atom.text = some (.comparison parameter.name operator (some operand)) ∧
      TypeText.integralBounds? (TypeText.base parameter.typeName) = some (least, greatest) ∧
      Number.parse operand = .ok (some (.integer k)) ∧ least < k ∧ k < greatest

/-- The condition of a branch is a chain of comparisons of different parameters, short enough to try
all assignments. -/
structure Comparisons (settings : SynthesisSettings) (target : Target) (branch : Branch)
    (subjects : List Parameter) : Prop where
  names : ∀ parameter ∈ target.function.parameters, IsName parameter.name
  distinct : (target.function.parameters.map (·.name)).Nodup
  nonempty : atomsOf branch ≠ []
  atoms : List.Forall₂ (ComparesInside target.function) (atomsOf branch) subjects
  subjects : subjects.Nodup
  exhaustive : settings.policy = .exhaustive
  few : ((atomsOf branch).length : Int) ≤ settings.maxExhaustiveAtoms

/-! ### Literals are no names -/

/-- A name is not read as a number. -/
theorem trimmed_ne_name {operand name : String} {k : Int} (hname : IsName name)
    (hoperand : Number.parse operand = .ok (some (.integer k))) : trimmed operand ≠ name := by
  intro heq
  obtain ⟨c, hc, hdigit, hsign⟩ : ∃ c, name.toList.head? = some c ∧ Text.isDecimal c = false ∧
      c ≠ '-' := by
    rcases hname with ⟨c, rest, htext, hword, hdigit, -⟩ | ⟨text, htext⟩
    · refine ⟨c, by rw [htext]; rfl, hdigit, ?_⟩
      rintro rfl
      exact absurd hword (by decide)
    · exact ⟨'`', by rw [htext]; rfl, by decide, by decide⟩
  have hblank : Text.isBlank c = false := by
    rw [← heq, toList_trimmed] at hc
    exact Text.head?_trim hc
  have hnone := Number.parse_of_head hc hblank hdigit hsign
  rw [← heq, Number.parse_trimmed, hoperand] at hnone
  cases hnone

variable {function : FunctionDecl}

theorem get?_of_literal {values : Bindings} {operand : String} {k : Int}
    (hnames : ∀ parameter ∈ function.parameters, IsName parameter.name)
    (hvalues : Suitable function values)
    (hoperand : Number.parse operand = .ok (some (.integer k))) :
    values.get? (trimmed operand) = none := by
  have hnone : (values.get? (trimmed operand)).isSome = false := by
    rw [hvalues.bound]
    refine Bool.eq_false_iff.2 fun hsome => ?_
    obtain ⟨parameter, hmem, -, hname⟩ := isSome_fixedParameter?.1 hsome
    exact trimmed_ne_name (hnames parameter hmem) hoperand hname.symm
  rwa [Option.isSome_eq_false_iff, Option.isNone_iff_eq_none] at hnone

/-- The value for such an atom exists and gives it the wanted truth, whatever else is bound. -/
theorem ComparesInside.value {atom : Condition} {parameter : Parameter}
    (h : ComparesInside function atom parameter)
    (hnames : ∀ parameter ∈ function.parameters, IsName parameter.name) :
    ∃ shape, AtomShape.of? atom.text = some shape ∧ shape.subject = parameter.name ∧
      ∀ desired known, Suitable function known →
        ∃ value, Value.forAtom parameter (some shape) desired known = .ok value ∧
          ∀ known', Suitable function known' →
            Value.atomHolds shape value known' = .ok (some desired) := by
  obtain ⟨-, -, operator, operand, least, greatest, k, hshape, hbounds, hparse, hlow, hhigh⟩ := h
  obtain ⟨known, hknown, rfl⟩ := AtomShape.known_of_comparison hshape
  refine ⟨_, hshape, rfl, fun desired values hvalues => ?_⟩
  have htrimmed : Number.parse (trimmed operand) = .ok (some (.integer k)) := by
    rw [Number.parse_trimmed, hparse]
  obtain ⟨value, n, hvalue, hread, hholds⟩ :=
    Value.comparisonValue_integer hbounds hknown htrimmed hlow hhigh desired
  refine ⟨value, ?_, fun values' hvalues' => ?_⟩
  · simp only [Value.forAtom, Option.getD_some, get?_of_literal hnames hvalues hparse,
      Option.getD_none]
    exact hvalue
  · rw [Value.atomHolds_integer hknown (get?_of_literal hnames hvalues' hparse)
      (Number.ofConstant_of_parse hread) hparse, hholds]

/-! ### Every assignment is reached -/

theorem ComparesInside.fixedParameter? {atom : Condition} {parameter : Parameter}
    (h : ComparesInside function atom parameter)
    (hdistinct : (function.parameters.map (·.name)).Nodup) :
    Synthesis.fixedParameter? function parameter.name = some parameter :=
  fixedParameter?_of_nodup hdistinct h.1 h.2.1

/-- All atoms are driven, in their order. -/
theorem map_subject_drivenAtoms {conditions : List Condition} {subjects : List Parameter}
    (hatoms : List.Forall₂ (ComparesInside function) conditions subjects) {assignment : List Bool}
    (hlength : assignment.length = conditions.length) :
    (drivenAtoms function (shapesOf conditions) assignment).map (fun atom => atom.1.subject)
      = subjects.map (·.name) := by
  induction hatoms generalizing assignment with
  | nil => rfl
  | @cons atom parameter conditions subjects hfirst hrest ih =>
    obtain ⟨truth, assignment, rfl⟩ : ∃ truth rest, assignment = truth :: rest :=
      List.exists_cons_of_length_eq_add_one hlength
    obtain ⟨hmem, hfixed, operator, operand, -, -, -, hshape, -⟩ := hfirst
    have hsome : (Synthesis.fixedParameter? function parameter.name).isSome = true :=
      isSome_fixedParameter?.2 ⟨parameter, hmem, hfixed, rfl⟩
    have hshorter : assignment.length = conditions.length := by simpa using hlength
    have hih := ih hshorter
    simp only [drivenAtoms, shapesOf, List.map_cons, List.zip_cons_cons, List.filterMap_cons,
      hshape, AtomShape.subject, hsome, if_true] at hih ⊢
    rw [hih]

variable {settings : SynthesisSettings} {target : Target} {branch : Branch}
  {subjects : List Parameter}

theorem Comparisons.nodup_names (h : Comparisons settings target branch subjects) :
    (subjects.map (·.name)).Nodup := by
  have hmem : ∀ parameter ∈ subjects, parameter ∈ target.function.parameters := by
    intro parameter hparameter
    obtain ⟨i, hi, rfl⟩ := List.getElem_of_mem hparameter
    exact (h.atoms.get (h.atoms.length_eq ▸ hi) hi).1
  refine List.Nodup.map_on (fun a ha b hb hname => ?_) h.subjects
  exact List.inj_on_of_nodup_map h.distinct (hmem a ha) (hmem b hb) hname

/-- An atom of the condition with its subject, its shape and its place among the driven atoms. -/
theorem Comparisons.atom (h : Comparisons settings target branch subjects) {assignment : List Bool}
    (hlength : assignment.length = (atomsOf branch).length) {i : ℕ} {atom : Condition}
    (hatom : (atomsOf branch)[i]? = some atom) :
    ∃ parameter ∈ subjects, ∃ truth, assignment[i]? = some truth ∧
      ComparesInside target.function atom parameter ∧
      ∀ shape, AtomShape.of? atom.text = some shape → shape.subject = parameter.name →
        (shape, truth) ∈ drivenAtoms target.function (shapesOf (atomsOf branch)) assignment := by
  obtain ⟨hi, rfl⟩ := List.getElem?_eq_some_iff.1 hatom
  have hsubject : i < subjects.length := h.atoms.length_eq ▸ hi
  have hassigned : i < assignment.length := by omega
  have hinside := h.atoms.get hi hsubject
  refine ⟨subjects[i], List.getElem_mem hsubject, assignment[i], List.getElem?_eq_getElem hassigned,
    hinside, fun shape hshape hname => mem_drivenAtoms.2 ⟨?_, ?_⟩⟩
  · refine List.mem_iff_getElem.2 ⟨i, ?_, ?_⟩
    · rw [List.length_zip, shapesOf, List.length_map]
      omega
    · simp [shapesOf, hshape]
  · exact isSome_fixedParameter?.2 ⟨subjects[i], hinside.1, hinside.2.1, hname.symm⟩

/-- Every driven atom can be read. -/
theorem Comparisons.returns_drive (h : Comparisons settings target branch subjects)
    {assignment : List Bool} (hlength : assignment.length = (atomsOf branch).length) :
    Returns (drive target.function (atomsOf branch) assignment target.neutralValues) := by
  have hneutral := suitable_neutralValues target
  refine (returns_drive_iff hneutral).2 fun driven hdriven => ?_
  obtain ⟨hzip, -⟩ := mem_drivenAtoms.1 hdriven
  obtain ⟨i, hi, hpair⟩ := List.mem_iff_getElem.1 hzip
  have hi' : i < (atomsOf branch).length := by
    rw [List.length_zip, shapesOf, List.length_map] at hi
    omega
  have hshape : AtomShape.of? (atomsOf branch)[i].text = some driven.1 := by
    simpa [shapesOf] using congrArg Prod.fst hpair
  obtain ⟨parameter, -, -, -, hinside, -⟩ := h.atom hlength (List.getElem?_eq_getElem hi')
  obtain ⟨shape, hfound, hsubject, hvalue⟩ := hinside.value h.names
  obtain rfl : shape = driven.1 := Option.some.inj (hfound.symm.trans hshape)
  have hparameter := hinside.fixedParameter? h.distinct
  rw [← hsubject] at hparameter
  refine (atomReadable_iff hneutral hparameter).2 ?_
  obtain ⟨value, hfor, -⟩ := hvalue driven.2 target.neutralValues hneutral
  exact ⟨value, hfor⟩

/-- Driving gives each atom the truth that is assigned to it. -/
theorem Comparisons.holds (h : Comparisons settings target branch subjects)
    {assignment truths : List Bool} {values : Bindings}
    (hlength : assignment.length = (atomsOf branch).length)
    (hdrive : drive target.function (atomsOf branch) assignment target.neutralValues
      = .ok (values, truths)) {i : ℕ} {atom : Condition} (hatom :
        (atomsOf branch)[i]? = some atom) :
    ∃ shape value truth, AtomShape.of? atom.text = some shape ∧
      (fixedParameter? target.function shape.subject).isSome = true ∧
      assignment[i]? = some truth ∧ values.get? shape.subject = some value ∧
      Value.atomHolds shape value values = .ok (some truth) := by
  obtain ⟨parameter, -, truth, htruth, hinside, hdriven⟩ := h.atom hlength hatom
  obtain ⟨shape, hshape, hsubject, hvalue⟩ := hinside.value h.names
  have hparameter := hinside.fixedParameter? h.distinct
  rw [← hsubject] at hparameter
  have hdistinct : ((drivenAtoms target.function (shapesOf (atomsOf branch)) assignment).map
      fun atom => atom.1.subject).Nodup := by
    rw [map_subject_drivenAtoms h.atoms hlength]
    exact h.nodup_names
  obtain ⟨known, value, hknown, hfor, hget⟩ := drive_distinct (suitable_neutralValues target)
    hdistinct hdrive (hdriven shape hshape hsubject) hparameter
  obtain ⟨value', hfor', hholds⟩ := hvalue truth known hknown
  obtain rfl : value = value' := Except.ok.inj (hfor.symm.trans hfor')
  exact ⟨shape, value, truth, hshape, by rw [hparameter]; rfl, htruth, hget,
    hholds values (drive_suitable (suitable_neutralValues target) hdrive)⟩

/-- **Every assignment is reached.** -/
theorem drive_comparisons (h : Comparisons settings target branch subjects) {assignment : List Bool}
    (hlength : assignment.length = (atomsOf branch).length) :
    ∃ values, drive target.function (atomsOf branch) assignment target.neutralValues
      = .ok (values, assignment) := by
  obtain ⟨⟨values, truths⟩, hdrive⟩ := h.returns_drive hlength
  have htruths := length_of_drive hlength hdrive
  obtain rfl : truths = assignment := by
    refine List.ext_getElem? fun i => ?_
    by_cases hi : i < (atomsOf branch).length
    · obtain ⟨shape, value, truth, hshape, hsubject, htruth, hget, hholds⟩ :=
        h.holds hlength hdrive (List.getElem?_eq_getElem hi)
      rw [htruth]
      exact getElem?_of_drive hlength hdrive (List.getElem?_eq_getElem hi) hshape hsubject
        hget hholds
    · rw [List.getElem?_eq_none (by omega), List.getElem?_eq_none (by omega)]
  exact ⟨values, hdrive⟩

/-! ### The tests -/

/-- Where each planned assignment is reached and none is planned twice, each gets its test. -/
theorem ifTestsFor_eq_mapM {conditions : List Condition} {combinations : List Combination}
    (hreached : ∀ combination ∈ combinations, ∃ values,
      drive target.function conditions combination.assignment target.neutralValues
        = .ok (values, combination.assignment))
    (hnodup : (combinations.map (·.assignment)).Nodup) {seen : List (List Bool)}
    (hnew : ∀ combination ∈ combinations, combination.assignment ∉ seen) :
    ifTestsFor settings target branch conditions seen combinations =
      combinations.mapM fun combination =>
        drive target.function conditions combination.assignment target.neutralValues >>=
          fun driven => ifTest settings target branch conditions driven.1 driven.2 := by
  induction combinations generalizing seen with
  | nil => rfl
  | cons combination rest ih =>
    obtain ⟨values, hdrive⟩ := hreached combination (by simp)
    rw [List.map_cons, List.nodup_cons] at hnodup
    have hfresh : seen.contains combination.assignment = false := by
      simpa using hnew combination (by simp)
    have hstill : ∀ other ∈ rest, other.assignment ∉ combination.assignment :: seen := by
      intro other hother hmem
      rcases List.mem_cons.1 hmem with heq | hmem
      · exact hnodup.1 (List.mem_map.2 ⟨other, hother, heq⟩)
      · exact hnew other (by simp [hother]) hmem
    have hrest := ih (fun other hother => hreached other (by simp [hother])) hnodup.2 hstill
    rw [ifTestsFor, List.mapM_cons, hdrive, ← hrest]
    show (if seen.contains combination.assignment then _ else _) = _
    rw [hfresh]
    rfl

/-- What the tests of a branch cover: every assignment of its atoms, in the order of the numbers
whose bits they are. -/
structure Covers (target : Target) (branch : Branch) (subjects : List Parameter)
    (tests : List TestCase) : Prop where
  /-- There is one test for each assignment. -/
  count : tests.length = 2 ^ (atomsOf branch).length
  /-- The values of the test at a place give the atoms the bits of that place. -/
  reached : ∀ (i : ℕ) (test : TestCase), tests[i]? = some test →
    ∀ (j : ℕ) (atom : Condition), (atomsOf branch)[j]? = some atom →
      ∃ shape, AtomShape.of? atom.text = some shape ∧
        test.truth? shape = .ok (some (i.testBit j))
  /-- A parameter that no atom is about keeps its neutral value. -/
  neutral : ∀ test ∈ tests, ∀ parameter ∈ target.function.parameters,
    parameter.isVariadic = false → parameter ∉ subjects →
      test.values.get? parameter.name = some (Value.neutral parameter.typeName)
  /-- A variadic parameter keeps the values that all tests share. -/
  variadic : ∀ test ∈ tests, ∀ (place : ℕ) (parameter : Parameter),
    target.function.parameters[place]? = some parameter → parameter.isVariadic = true →
      test.bindings[place]?.map (·.values) = some (target.variadicValues place)
  /-- The note of a test tells the outcome of its assignment. -/
  labelled : ∀ (i : ℕ) (test : TestCase), tests[i]? = some test →
    ∃ outcome, Condition.evaluate (atomsOf branch) (Plan.bitAssignment (atomsOf branch).length i)
      = .ok outcome ∧ test.notes = [outcomeNote branch outcome]
  /-- Both outcomes occur. -/
  both : ∀ outcome, ∃ test ∈ tests, test.notes = [outcomeNote branch outcome]

/-- The plan takes all assignments and draws nothing. -/
theorem Comparisons.choose (h : Comparisons settings target branch subjects) (rng : Twister) :
    Plan.choose settings.planOptions (atomsOf branch) rng =
      ({ combinations := (Plan.exhaustiveAssignments (atomsOf branch).length).map
           (Plan.combine (atomsOf branch)),
         policy := .exhaustive }, rng) := by
  have hall : Plan.isExhaustive settings.planOptions (atomsOf branch) = true := by
    simp [Plan.isExhaustive, SynthesisSettings.planOptions, h.exhaustive, h.few]
  rw [Plan.choose, if_pos hall]
  rfl

/-- The tests for all assignments, each with the values that reach it. -/
theorem Comparisons.ifTestsFor_eq (h : Comparisons settings target branch subjects) :
    ifTestsFor settings target branch (atomsOf branch) []
        ((Plan.exhaustiveAssignments (atomsOf branch).length).map (Plan.combine (atomsOf branch))) =
      ((Plan.exhaustiveAssignments (atomsOf branch).length).map
        (Plan.combine (atomsOf branch))).mapM fun combination =>
          drive target.function (atomsOf branch) combination.assignment target.neutralValues >>=
            fun driven => ifTest settings target branch (atomsOf branch) driven.1 driven.2 := by
  refine ifTestsFor_eq_mapM (fun combination hmem => ?_) ?_ (by simp)
  · obtain ⟨assignment, hassignment, rfl⟩ := List.mem_map.1 hmem
    obtain ⟨i, -, rfl⟩ := List.mem_map.1 hassignment
    exact drive_comparisons h (Plan.length_bitAssignment _ i)
  · rw [List.map_map]
    have hsame : ((fun combination : Combination => combination.assignment) ∘
        Plan.combine (atomsOf branch)) = id := rfl
    rw [hsame, List.map_id]
    exact Plan.nodup_exhaustiveAssignments _

/-- The test at a place is that of the assignment of the place. -/
theorem Comparisons.test_at (h : Comparisons settings target branch subjects)
    {tests : List TestCase}
    (htests : ifTestsFor settings target branch (atomsOf branch) []
      ((Plan.exhaustiveAssignments (atomsOf branch).length).map (Plan.combine (atomsOf branch)))
        = .ok tests) :
    tests.length = 2 ^ (atomsOf branch).length ∧
      ∀ (i : ℕ) (test : TestCase), tests[i]? = some test →
        ∃ values, drive target.function (atomsOf branch)
            (Plan.bitAssignment (atomsOf branch).length i) target.neutralValues
              = .ok (values, Plan.bitAssignment (atomsOf branch).length i) ∧
          ifTest settings target branch (atomsOf branch) values
            (Plan.bitAssignment (atomsOf branch).length i) = .ok test := by
  rw [h.ifTestsFor_eq, mapM_eq_ok_iff] at htests
  have hlength : tests.length = 2 ^ (atomsOf branch).length := by
    rw [← htests.length_eq, List.length_map, Plan.length_exhaustiveAssignments]
  refine ⟨hlength, fun i test htest => ?_⟩
  obtain ⟨hi, rfl⟩ := List.getElem?_eq_some_iff.1 htest
  have hplace := htests.get (htests.length_eq ▸ hi) hi
  simp only [List.get_eq_getElem, List.getElem_map, Plan.exhaustiveAssignments, List.getElem_range,
    Plan.combine] at hplace
  obtain ⟨⟨values, truths⟩, hdrive, htest⟩ := bind_eq_ok_iff.1 hplace
  obtain ⟨values', hdrive'⟩ := drive_comparisons h
    (Plan.length_bitAssignment (atomsOf branch).length i)
  obtain ⟨rfl, rfl⟩ := Prod.mk.inj (Except.ok.inj (hdrive.symm.trans hdrive'))
  exact ⟨values, hdrive, htest⟩

/-- The tests that are made cover the branch. -/
theorem Comparisons.covers (h : Comparisons settings target branch subjects) {tests : List TestCase}
    (htests : ifTestsFor settings target branch (atomsOf branch) []
      ((Plan.exhaustiveAssignments (atomsOf branch).length).map (Plan.combine (atomsOf branch)))
        = .ok tests) : Covers target branch subjects tests := by
  obtain ⟨hcount, htest⟩ := h.test_at htests
  have hlabelled : ∀ (i : ℕ) (test : TestCase), tests[i]? = some test →
      test.notes = [outcomeNote branch (Condition.outcome (atomsOf branch)
        (Plan.bitAssignment (atomsOf branch).length i))] := by
    intro i test hi
    obtain ⟨values, -, hmade⟩ := htest i test hi
    obtain ⟨assertions, -, rfl⟩ := ifTest_eq_ok hmade
    rfl
  refine ⟨hcount, ?_, ?_, ?_, ?_, ?_⟩
  · intro i test hi j atom hatom
    obtain ⟨values, hdrive, hmade⟩ := htest i test hi
    obtain ⟨assertions, -, rfl⟩ := ifTest_eq_ok hmade
    obtain ⟨shape, value, truth, hshape, -, htruth, hget, hholds⟩ :=
      h.holds (Plan.length_bitAssignment _ i) hdrive hatom
    refine ⟨shape, hshape, ?_⟩
    rw [truth?_testCase (drive_suitable (suitable_neutralValues target) hdrive) hget, hholds]
    obtain ⟨hj, -⟩ := List.getElem?_eq_some_iff.1 hatom
    have hbit : (Plan.bitAssignment (atomsOf branch).length i)[j]? = some (i.testBit j) := by
      simp [Plan.bitAssignment, hj]
    rw [htruth] at hbit
    rw [hbit]
  · intro test hmem parameter hparameter hfixed hother
    obtain ⟨i, hi⟩ := List.mem_iff_getElem?.1 hmem
    obtain ⟨values, hdrive, hmade⟩ := htest i test hi
    obtain ⟨assertions, -, rfl⟩ := ifTest_eq_ok hmade
    rw [get?_values_testCase (drive_suitable (suitable_neutralValues target) hdrive),
      drive_frame (fun driven hdriven hsame => ?_) hdrive, get?_neutralValues,
      fixedParameter?_of_nodup h.distinct hparameter hfixed]
    · rfl
    -- a driven atom about the parameter would make it a subject
    · have hname : parameter.name ∈ subjects.map (·.name) := by
        rw [← map_subject_drivenAtoms h.atoms (Plan.length_bitAssignment _ i), List.mem_map]
        exact ⟨driven, hdriven, hsame⟩
      obtain ⟨subject, hsubject, hsubjectName⟩ := List.mem_map.1 hname
      obtain ⟨k, hk, rfl⟩ := List.getElem_of_mem hsubject
      have hinside := h.atoms.get (h.atoms.length_eq ▸ hk) hk
      exact hother (List.inj_on_of_nodup_map h.distinct hinside.1 hparameter hsubjectName ▸
        hsubject)
  · intro test hmem place parameter hparameter hvariadic
    obtain ⟨i, hi⟩ := List.mem_iff_getElem?.1 hmem
    obtain ⟨values, -, hmade⟩ := htest i test hi
    obtain ⟨assertions, -, rfl⟩ := ifTest_eq_ok hmade
    exact values_of_isVariadic _ _ _ _ hparameter hvariadic
  · intro i test hi
    exact ⟨_, Condition.evaluate_eq h.nonempty (Plan.length_bitAssignment _ i), hlabelled i test hi⟩
  · intro outcome
    obtain ⟨truths, hlength, houtcome⟩ := Condition.exists_outcome h.nonempty outcome
    obtain ⟨i, hi, hbits⟩ := Plan.exists_bitAssignment truths
    rw [hlength] at hi hbits
    have hplace : i < tests.length := by omega
    refine ⟨tests[i], List.getElem_mem hplace, ?_⟩
    rw [hlabelled i tests[i] (List.getElem?_eq_getElem hplace), hbits, houtcome]

/-- A test can be made unless the exact oracle meets an integer with too many digits. -/
theorem returns_ifTest_iff {truths : List Bool} {values : Bindings}
    (hvalues : Suitable target.function values) :
    Returns (ifTest settings target branch (atomsOf branch) values truths) ↔
      (settings.oracle = .exact → Condition.outcome (atomsOf branch) truths = true →
        Oracle.BodyReadable target.function branch.body []) := by
  have hforBranch : Returns (Oracle.forBranch settings.oracle target.function (atomsOf branch)
      (branch.condition.getD "") (Condition.outcome (atomsOf branch) truths) values branch.body) ↔
        (settings.oracle = .exact → Condition.outcome (atomsOf branch) truths = true →
          Oracle.BodyReadable target.function branch.body values) := Oracle.returns_forBranch_iff
  rw [← Oracle.bodyReadable_iff_nil fun name value hvalue =>
    (hvalues.readable name value hvalue).returns_parse, ← hforBranch]
  exact returns_bind_of_returns fun _ => returns_ok _

/-- Whether there are tests depends on the integers in the body alone. -/
theorem Comparisons.returns_iff (h : Comparisons settings target branch subjects) (rng : Twister) :
    Returns (ifTests settings target branch rng) ↔
      (settings.oracle = .exact → Oracle.BodyReadable target.function branch.body []) := by
  obtain ⟨warnings, hrun⟩ := ifTests_run settings target h.nonempty rng
  rw [hrun, h.choose rng, returns_map_iff, h.ifTestsFor_eq, returns_mapM_iff]
  constructor
  · -- the assignment with a true outcome asks the oracle
    intro hall hexact
    obtain ⟨truths, hlength, houtcome⟩ := Condition.exists_outcome h.nonempty true
    obtain ⟨i, hi, hbits⟩ := Plan.exists_bitAssignment truths
    rw [hlength] at hi hbits
    have hmem : Plan.combine (atomsOf branch) truths ∈
        (Plan.exhaustiveAssignments (atomsOf branch).length).map
        (Plan.combine (atomsOf branch)) := by
      refine List.mem_map.2 ⟨truths, ?_, rfl⟩
      exact List.mem_map.2 ⟨i, List.mem_range.2 hi, hbits⟩
    obtain ⟨⟨values, found⟩, hdrive, htest⟩ := returns_bind_iff.1 (hall _ hmem)
    obtain ⟨values', hdrive'⟩ := drive_comparisons h hlength
    obtain ⟨rfl, rfl⟩ := Prod.mk.inj (Except.ok.inj (hdrive.symm.trans hdrive'))
    exact (returns_ifTest_iff (drive_suitable (suitable_neutralValues target) hdrive)).1 htest
      hexact houtcome
  · intro hbody combination hmem
    obtain ⟨assignment, hassignment, rfl⟩ := List.mem_map.1 hmem
    obtain ⟨i, -, rfl⟩ := List.mem_map.1 hassignment
    obtain ⟨values, hdrive⟩ := drive_comparisons h
      (Plan.length_bitAssignment (atomsOf branch).length i)
    refine returns_bind_iff.2 ⟨_, hdrive, ?_⟩
    exact (returns_ifTest_iff (drive_suitable (suitable_neutralValues target) hdrive)).2
      fun hexact _ => hbody hexact

/-- **Different integral parameters, each compared with a literal strictly between the bounds of its
type, are fully covered, unless the exact oracle meets an integer with too many digits.** -/
theorem ifTests_covers (h : Comparisons settings target branch subjects) (rng : Twister) :
    (Returns (ifTests settings target branch rng) ↔
      (settings.oracle = .exact → Oracle.BodyReadable target.function branch.body [])) ∧
    ∀ result rng', ifTests settings target branch rng = .ok (result, rng') →
      Covers target branch subjects result.tests ∧ rng' = rng := by
  refine ⟨h.returns_iff rng, fun result rng' hresult => ?_⟩
  obtain ⟨warnings, hrun⟩ := ifTests_run settings target h.nonempty rng
  rw [hrun, h.choose rng] at hresult
  obtain ⟨tests, htests, hpair⟩ := map_eq_ok_iff.1 hresult
  obtain ⟨rfl, rfl⟩ := Prod.mk.inj hpair
  exact ⟨h.covers htests, rfl⟩

/-! ### An example -/

/-- A function `f(x: Int, y: Long, z: Int)`. -/
def pairTarget : Target :=
  exampleTarget [{ name := "x", typeName := "Int" }, { name := "y", typeName := "Long" },
    { name := "z", typeName := "Int" }]

/-- An `if` on two of its parameters. -/
def pairIf (body : String) : Branch := exampleIf "x > 5 || 10L != y" (some body)

theorem comparisons_pair (body : String) :
    Comparisons { oracle := .exact } pairTarget (pairIf body)
      [{ name := "x", typeName := "Int" }, { name := "y", typeName := "Long" }] := by
  have hatoms : atomsOf (pairIf body) =
      [{ text := "x > 5" }, { text := "10L != y", connective := .or }] :=
    show Condition.decompose "x > 5 || 10L != y" = _ by decide +kernel
  refine ⟨?_, by decide, by rw [hatoms]; simp, ?_, by decide, rfl, by rw [hatoms]; decide⟩
  · intro parameter hparameter
    have hname : parameter.name ∈ ["x", "y", "z"] := List.mem_map_of_mem hparameter
    simp only [List.mem_cons, List.not_mem_nil, or_false] at hname
    rcases hname with hname | hname | hname <;> rw [hname]
    · exact Or.inl ⟨'x', [], by decide, by decide, by decide, by simp⟩
    · exact Or.inl ⟨'y', [], by decide, by decide, by decide, by simp⟩
    · exact Or.inl ⟨'z', [], by decide, by decide, by decide, by simp⟩
  · rw [hatoms]
    refine .cons ⟨by decide, rfl, some .greater, "5", -2147483648, 2147483647, 5, ?_, ?_, ?_⟩
      (.cons ⟨by decide, rfl, some .notEqual, "10L", -9223372036854775808, 9223372036854775807, 10,
        ?_, ?_, ?_⟩ .nil)
    · decide +kernel
    · decide +kernel
    · exact ⟨by decide +kernel, by decide, by decide⟩
    · decide +kernel
    · decide +kernel
    · exact ⟨by decide +kernel, by decide, by decide⟩

/-- Two comparisons and a body that the exact oracle can read give four tests. -/
theorem ifTests_covers_pair :
    Comparisons { oracle := .exact } pairTarget (pairIf "return z")
        [{ name := "x", typeName := "Int" }, { name := "y", typeName := "Long" }] ∧
      ∃ result, ifTests { oracle := .exact } pairTarget (pairIf "return z") ⟨#[], 0⟩
          = .ok (result, ⟨#[], 0⟩) ∧
        Covers pairTarget (pairIf "return z")
          [{ name := "x", typeName := "Int" },
            { name := "y", typeName := "Long" }] result.tests := by
  obtain ⟨hreturns, hcovers⟩ := ifTests_covers (comparisons_pair "return z") ⟨#[], 0⟩
  have hbody : Oracle.BodyReadable pairTarget.function (pairIf "return z").body [] := by
    have hoperands : Oracle.bodyOperands "return z" = [.name "z"] := by decide +kernel
    intro _ a ha literal hliteral
    obtain rfl : a = .name "z" := List.mem_singleton.1 (hoperands ▸ ha)
    cases hliteral
  obtain ⟨⟨result, rng'⟩, hresult⟩ := hreturns.2 fun _ => hbody
  obtain ⟨hall, rfl⟩ := hcovers result rng' hresult
  exact ⟨comparisons_pair "return z", result, hresult, hall⟩

/-- A body of 4301 digits is more than the exact oracle reads, and no test is made. -/
theorem ifTests_uncovered_longInteger :
    Comparisons { oracle := .exact } pairTarget
        (pairIf (String.ofList (List.replicate 4301 '1')))
        [{ name := "x", typeName := "Int" }, { name := "y", typeName := "Long" }] ∧
      ¬ Returns (ifTests { oracle := .exact } pairTarget
        (pairIf (String.ofList (List.replicate 4301 '1'))) ⟨#[], 0⟩) := by
  refine ⟨comparisons_pair _, fun hreturns => ?_⟩
  have hbody := ((comparisons_pair _).returns_iff ⟨#[], 0⟩).1 hreturns rfl (by decide)
  have hshort : Literal.IntegerLiteral.Short ⟨false, List.replicate 4301 '1'⟩ := by
    refine hbody (.integer ⟨false, List.replicate 4301 '1'⟩) ?_ _ rfl
    show _ ∈ Oracle.bodyOperands (String.ofList (List.replicate 4301 '1'))
    rw [Oracle.bodyOperands_ones]
    exact List.mem_singleton_self _
  rw [Literal.IntegerLiteral.Short, List.length_replicate] at hshort
  exact absurd hshort (by decide)

end BranchCover.Synthesis
