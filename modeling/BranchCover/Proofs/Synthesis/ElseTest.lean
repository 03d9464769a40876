import BranchCover.Proofs.Synthesis.EntryTests

/-!
# The `else` of a `when` without a subject

For the `else` the first atoms of the entries are driven to false one after another, each on its
own. Where the atoms are comparisons with integer literals, a parameter ends with the value for the
last comparison about it, so the earlier ones are false only if this value makes them false, too.

* `IntegerComparison`: a comparison of an integral parameter with an integer literal.
* `drive_comparison`, `falsify_comparisons`: what one step and the whole run bind.
* `elseTest_falsifies`: which comparisons the test of the `else` makes false.
-/

namespace BranchCover.Synthesis

/-- A comparison of an integral parameter of a function with an integer literal. -/
structure IntegerComparison (function : FunctionDecl) where
  parameter : Parameter
  operator : Comparator
  operand : String
  literal : Literal.NumberLiteral
  least : Int
  greatest : Int
  fixed : fixedParameter? function parameter.name = some parameter
  bounds : TypeText.integralBounds? (TypeText.base parameter.typeName) = some (least, greatest)
  known : operator ∈ Comparator.all
  /-- The literal is no name of a parameter. -/
  unbound : fixedParameter? function (trimmed operand) = none
  read : Literal.NumberLiteral.read? (Text.trim operand.toList) = some literal
  integer : literal.IsInteger

namespace IntegerComparison

variable {function : FunctionDecl}

/-- The shape of the comparison. -/
def shape (comparison : IntegerComparison function) : AtomShape :=
  .comparison comparison.parameter.name (some comparison.operator) (some comparison.operand)

/-- What the comparison says of an integer. -/
def relates (comparison : IntegerComparison function) (n : Int) : Bool :=
  comparison.operator.relates n comparison.literal.integer

/-- The integer that the comparison is made false with. -/
def falsifier (comparison : IntegerComparison function) : Int :=
  clamp comparison.least comparison.greatest
    (comparison.literal.integer + comparison.operator.shift false)

/-- An atom is the comparison, and not negated. -/
def IsAtom (comparison : IntegerComparison function) (atom : Condition) : Prop :=
  atom.negated = false ∧ AtomShape.of? atom.text = some comparison.shape

/-- The first case of an entry is the comparison alone. -/
def IsCaseOf (comparison : IntegerComparison function) (entry : Branch) : Prop :=
  ∃ atom, firstCase entry = [atom] ∧ comparison.IsAtom atom

end IntegerComparison

/-- The last of some comparisons about a name. -/
def lastAbout {function : FunctionDecl} (comparisons : List (IntegerComparison function))
    (name : String) :
    Option (IntegerComparison function) :=
  comparisons.reverse.find? (·.parameter.name == name)

variable {function : FunctionDecl} {values values' : Bindings} {atom : Condition}
  {truths : List Bool}

theorem lastAbout_cons (comparison : IntegerComparison function)
    (rest : List (IntegerComparison function))
    (name : String) :
    lastAbout (comparison :: rest) name =
      (lastAbout rest name).or (if comparison.parameter.name = name then some comparison
        else none) := by
  rw [lastAbout, List.reverse_cons, List.find?_append, ← lastAbout]
  by_cases hname : comparison.parameter.name = name <;> simp [hname]

/-! ### One step -/

theorem IntegerComparison.get?_operand (comparison : IntegerComparison function)
    (hvalues : Suitable function values) : values.get? (trimmed comparison.operand) = none := by
  have hnone := hvalues.bound (trimmed comparison.operand)
  rwa [comparison.unbound, Option.isSome_none, Option.isSome_eq_false_iff,
    Option.isNone_iff_eq_none] at hnone

theorem IntegerComparison.drivenAtoms (comparison : IntegerComparison function)
    (hatom : comparison.IsAtom atom)
    (truth : Bool) : drivenAtoms function (shapesOf [atom])
    [truth] = [(comparison.shape, truth)] := by
  have hfixed : (fixedParameter? function comparison.shape.subject).isSome = true := by
    rw [IntegerComparison.shape, AtomShape.subject, comparison.fixed]
    rfl
  rw [shapesOf, List.map_singleton, hatom.2, drivenAtoms_cons truth [] [] hfixed]
  rfl

/-- A comparison can be read exactly if its literal is not too long. -/
theorem IntegerComparison.atomReadable_iff (comparison : IntegerComparison function)
    (hvalues : Suitable function values) (desired : Bool) :
    AtomReadable function (comparison.shape, desired) ↔ comparison.literal.Short := by
  have hfixed : fixedParameter? function (comparison.shape, desired).1.subject =
      some comparison.parameter :=
    comparison.fixed
  rw [Synthesis.atomReadable_iff hvalues hfixed]
  exact Value.returns_forAtom_integral_iff comparison.bounds
    (comparison.get?_operand hvalues) comparison.read desired

/-- Driving a comparison to false binds its parameter to the integer that makes it false. -/
theorem drive_comparison (comparison : IntegerComparison function) (hatom : comparison.IsAtom atom)
    (hvalues : Suitable function values)
    (h : drive function [atom] [atom.negated] values = .ok (values', truths)) :
    ∃ text, values' = values.set comparison.parameter.name text ∧
      Number.ofConstant text = .ok (some (.integer comparison.falsifier)) := by
  have hrun := (drive_eq_ok_iff.1 h).1
  rw [hatom.1, comparison.drivenAtoms hatom] at hrun
  obtain ⟨bound, hstep, hend⟩ := bind_eq_ok_iff.1 hrun
  obtain rfl := Except.ok.inj hend
  have hsingle : atomsAbout [(comparison.shape, false)] comparison.shape.subject =
      [(comparison.shape, false)] := by
    simp [atomsAbout]
  have hbound : driveSubject function [(comparison.shape, false)] values
    (comparison.shape, false).1.subject
      = .ok bound := hstep
  obtain ⟨text, hfor, rfl⟩ := driveSubject_single hsingle comparison.fixed hbound
  have hunbound := comparison.get?_operand hvalues
  have hshort : comparison.literal.Short :=
    (Value.returns_forAtom_integral_iff comparison.bounds hunbound comparison.read false).1
      ⟨text, hfor⟩
  obtain ⟨found, hfound, hvalue⟩ :=
    Value.forAtom_integral comparison.parameter.name comparison.bounds
    comparison.known hunbound comparison.read comparison.integer hshort false
  obtain rfl : found = text := Except.ok.inj (hfound.symm.trans hfor)
  exact ⟨found, rfl, hvalue⟩

/-! ### The whole run -/

theorem falsify_suitable {atoms : List Condition} (hvalues : Suitable function values)
    (h : falsify function values atoms = .ok values') : Suitable function values' := by
  induction atoms generalizing values with
  | nil =>
    obtain rfl := Except.ok.inj h
    exact hvalues
  | cons atom rest ih =>
    obtain ⟨⟨next, truths⟩, hdrive, h⟩ := bind_eq_ok_iff.1 h
    exact ih (drive_suitable hvalues hdrive) h

/-- **Behind a run each parameter has the integer that makes the last comparison about it
false.** -/
theorem falsify_comparisons {atoms : List Condition}
    {comparisons : List (IntegerComparison function)}
    (hatoms : List.Forall₂ (fun atom comparison => comparison.IsAtom atom) atoms comparisons)
    (hvalues : Suitable function values) (h : falsify function values atoms = .ok values')
    (name : String) :
    (lastAbout comparisons name = none → values'.get? name = values.get? name) ∧
      ∀ last ∈ lastAbout comparisons name, ∃ text, values'.get? name = some text ∧
        Number.ofConstant text = .ok (some (.integer last.falsifier)) := by
  induction hatoms generalizing values with
  | nil =>
    obtain rfl := Except.ok.inj h
    exact ⟨fun _ => rfl, by simp [lastAbout]⟩
  | @cons atom comparison atoms rest hatom _ ih =>
    obtain ⟨⟨next, truths⟩, hdrive, h⟩ := bind_eq_ok_iff.1 h
    obtain ⟨text, rfl, htext⟩ := drive_comparison comparison hatom hvalues hdrive
    obtain ⟨hkept, hlast⟩ := ih (drive_suitable hvalues hdrive) h
    rw [lastAbout_cons]
    cases hfound : lastAbout rest name with
    | some last => simpa [hfound] using hlast last hfound
    | none =>
      rw [hkept hfound, Bindings.get?_set]
      by_cases hname : comparison.parameter.name = name
      · simpa [hname] using htext
      · simp [hname]

theorem exists_lastAbout {comparisons : List (IntegerComparison function)}
    {comparison : IntegerComparison function}
    (h : comparison ∈ comparisons) :
      ∃ last, lastAbout comparisons comparison.parameter.name = some last := by
  refine Option.isSome_iff_exists.1 (List.find?_isSome.2 ⟨comparison, List.mem_reverse.2 h, ?_⟩)
  exact beq_self_eq_true _

/-! ### Success -/

variable {settings : SynthesisSettings} {model : Model} {target : Target} {parent : Branch}
  {rng : Twister}
  {comparisons : List (IntegerComparison target.function)}

/-- The atoms that are driven for the `else` are the comparisons. -/
theorem forall₂_firstAtoms {entries : List Branch}
    (hcases : List.Forall₂ (fun entry comparison =>
      comparison.IsCaseOf entry) (entries.filter (!·.isCatchAll))
      comparisons) :
    List.Forall₂ (fun atom comparison =>
      comparison.IsAtom atom) (firstAtoms entries) comparisons := by
  unfold firstAtoms
  generalize entries.filter (!·.isCatchAll) = written at hcases ⊢
  induction hcases with
  | nil => exact .nil
  | @cons entry comparison written comparisons hcase _ ih =>
    obtain ⟨atom, hfirst, hatom⟩ := hcase
    simp only [List.filterMap_cons, hfirst, List.head?_cons]
    exact .cons hatom ih

theorem elseReadable_iff {atoms : List Condition}
    (hatoms : List.Forall₂ (fun atom comparison => comparison.IsAtom atom) atoms comparisons) :
    ElseReadable target.function atoms ↔ ∀ comparison ∈ comparisons, comparison.literal.Short := by
  induction hatoms with
  | nil => simp [ElseReadable]
  | @cons atom comparison atoms rest hatom _ ih =>
    rw [ElseReadable, List.forall_mem_cons, List.forall_mem_cons, ← ih, hatom.1,
      comparison.drivenAtoms hatom, List.forall_mem_singleton,
      comparison.atomReadable_iff (suitable_neutralValues target)]
    rfl

/-- The test of an entry that is a short comparison reads nothing else but its body. -/
theorem entryReadable_iff {entry : Branch} {comparison : IntegerComparison target.function}
    (hcase : comparison.IsCaseOf entry) (hshort : comparison.literal.Short) :
    EntryReadable settings target entry rng ↔
      (settings.oracle = .exact → Oracle.BodyReadable target.function entry.body []) := by
  obtain ⟨atom, hfirst, hatom⟩ := hcase
  refine and_iff_right fun assignment _ driven hdriven => ?_
  obtain ⟨hshape, -⟩ := List.of_mem_zip (mem_drivenAtoms.1 hdriven).1
  rw [hfirst, shapesOf, List.map_singleton, List.mem_singleton, hatom.2,
    Option.some.injEq] at hshape
  obtain ⟨shape, desired⟩ := driven
  obtain rfl : shape = comparison.shape := hshape
  exact (comparison.atomReadable_iff (suitable_neutralValues target) desired).2 hshort

theorem entriesReadable_iff {written : List Branch}
    (hcases : List.Forall₂ (fun entry comparison => comparison.IsCaseOf entry) written comparisons)
    (hshort : ∀ comparison ∈ comparisons, comparison.literal.Short) :
    EntriesReadable settings target written rng ↔
      ∀ entry ∈ written, settings.oracle = .exact →
        Oracle.BodyReadable target.function entry.body [] := by
  induction hcases generalizing rng with
  | nil => simp [EntriesReadable]
  | @cons entry comparison written rest hcase _ ih =>
    obtain ⟨hfirst, hrest⟩ := List.forall_mem_cons.1 hshort
    rw [EntriesReadable, entryReadable_iff hcase hfirst, ih hrest, List.forall_mem_cons]

/-! ### The test of the `else` -/

/-- The test of the `else` binds what a run binds. -/
theorem elseTest_eq_ok {entries : List Branch} {test : TestCase}
    (h : elseTest settings target entries = .ok test) :
    ∃ values, falsify target.function target.neutralValues (firstAtoms entries) = .ok values ∧
      test.kind = .whenElse ∧
      ∀ shape value, values.get? shape.subject = some value →
        test.truth? shape = Value.atomHolds shape value values := by
  obtain ⟨values, hvalues, h⟩ := bind_eq_ok_iff.1 h
  obtain ⟨assertions, -, h⟩ := bind_eq_ok_iff.1 h
  obtain rfl := Except.ok.inj h
  exact ⟨values, hvalues, rfl, fun shape value hvalue =>
    truth?_testCase (falsify_suitable (suitable_neutralValues target) hvalues) hvalue⟩

/-- The test of the `else` gives a comparison the truth that the last comparison about its parameter
leaves it. -/
theorem truth?_elseTest {entries : List Branch} {test : TestCase}
    (hcases : List.Forall₂ (fun entry comparison =>
      comparison.IsCaseOf entry) (entries.filter (!·.isCatchAll))
      comparisons)
    (h : elseTest settings target entries = .ok test)
    {comparison last : IntegerComparison target.function}
    (hmem : comparison ∈ comparisons)
    (hlast : lastAbout comparisons comparison.parameter.name = some last) :
    test.truth? comparison.shape = .ok (some (comparison.relates last.falsifier)) := by
  have hatoms := forall₂_firstAtoms hcases
  have hneutral := suitable_neutralValues target
  obtain ⟨values, hvalues, -, htruth⟩ := elseTest_eq_ok h
  have hshort := (elseReadable_iff hatoms).1 ((returns_falsify_iff hneutral).1 ⟨values, hvalues⟩)
    comparison hmem
  obtain ⟨text, htext, hinteger⟩ :=
    (falsify_comparisons hatoms hneutral hvalues comparison.parameter.name).2 last hlast
  rw [htruth comparison.shape text htext]
  exact Value.atomHolds_literal comparison.parameter.name comparison.known
    (comparison.get?_operand (falsify_suitable hneutral hvalues)) comparison.read comparison.integer
      hshort hinteger

/-- **A `when` without a subject whose entries are comparisons with integer literals gets its tests
unless a literal is too long or the exact oracle cannot read a body. The last of them is the test of
the `else`. It gives each comparison the truth that the last comparison about the same parameter
leaves it, so that it makes all of them false exactly if each integer that makes such a last one
false does so for the others about its parameter. For the last comparison itself, such an integer is
found if the type has one, but for a difference from the greatest value.** -/
theorem elseTest_falsifies (hkind : parent.kind = .when) (hsubject : parent.condition.getD "" = "")
    (hne : model.entriesFor parent ≠ [])
    (hcases : List.Forall₂ (fun entry comparison => comparison.IsCaseOf entry)
      ((model.entriesFor parent).filter (!·.isCatchAll)) comparisons) (rng : Twister) :
    (Returns (branchTests settings model target parent rng) ↔
      (∀ comparison ∈ comparisons, comparison.literal.Short) ∧
        ∀ entry ∈ (model.entriesFor parent).filter (!·.isCatchAll), settings.oracle = .exact →
          Oracle.BodyReadable target.function entry.body []) ∧
    ∀ result rng', branchTests settings model target parent rng = .ok (result, rng') →
      ∃ tests test, result.tests = tests ++ [test] ∧ test.kind = .whenElse ∧
        (∀ comparison ∈ comparisons, ∀ last ∈ lastAbout comparisons comparison.parameter.name,
          test.truth? comparison.shape = .ok (some (comparison.relates last.falsifier))) ∧
        ((∀ comparison ∈ comparisons, test.truth? comparison.shape = .ok (some false)) ↔
          ∀ comparison ∈ comparisons, ∀ last ∈ lastAbout comparisons comparison.parameter.name,
            comparison.relates last.falsifier = false) ∧
        ∀ last ∈ comparisons, lastAbout comparisons last.parameter.name = some last →
          (test.truth? last.shape = .ok (some false) ↔
            (∃ m, last.least ≤ m ∧ m ≤ last.greatest ∧ last.relates m = false) ∧
              ¬ last.operator.MovesBack false last.greatest last.literal.integer) := by
  have hkinds : ∀ entry ∈ model.entriesFor parent, entry.kind = .whenEntry := fun entry hentry =>
    kind_of_mem_entriesFor hentry
  rw [branchTests_eq_whenTests hkind hne, if_pos hsubject]
  constructor
  · rw [returns_subjectlessWhenTests_iff hkinds, elseReadable_iff (forall₂_firstAtoms hcases),
      and_comm]
    exact and_congr_right fun hshort => entriesReadable_iff hcases hshort
  intro result rng' h
  obtain ⟨cases, test, -, htest, rfl⟩ := subjectlessWhenTests_eq_ok h
  obtain ⟨_, -, hkind, -⟩ := elseTest_eq_ok htest
  have htruth : ∀ comparison ∈ comparisons,
    ∀ last ∈ lastAbout comparisons comparison.parameter.name,
      test.truth? comparison.shape = .ok (some (comparison.relates last.falsifier)) :=
    fun comparison hmem last hlast => truth?_elseTest hcases htest hmem hlast
  refine ⟨cases.tests, test, rfl, hkind, htruth, ?_, fun last hmem hlast => ?_⟩
  · refine forall₂_congr fun comparison hmem => ?_
    obtain ⟨last, hlast⟩ := exists_lastAbout hmem
    rw [htruth comparison hmem last hlast, hlast]
    simp
  · rw [htruth last hmem last hlast, Except.ok.injEq, Option.some.injEq]
    exact Comparator.relates_clamp_iff last.known (TypeText.least_le_greatest last.bounds) false

/-- The comparison `x > n` of an `Int` with a literal. -/
def exceeds (operand : String) (literal : Literal.NumberLiteral)
    (unbound : fixedParameter? subjectTarget.function (trimmed operand) = none)
    (read : Literal.NumberLiteral.read? (Text.trim operand.toList) = some literal)
    (integer : literal.IsInteger) :
    IntegerComparison subjectTarget.function where
  parameter := { name := "x", typeName := "Int" }
  operator := .greater
  operand
  literal
  least := -2147483648
  greatest := 2147483647
  fixed := by decide
  bounds := by decide
  known := by decide
  unbound
  read
  integer

/-- The comparison `x > 5`. -/
def exceedsFive : IntegerComparison subjectTarget.function :=
  exceeds "5" ⟨false, ['5'], [], none⟩ (by decide) (by decide) ⟨rfl, rfl⟩

/-- The comparison `x > 10`. -/
def exceedsTen : IntegerComparison subjectTarget.function :=
  exceeds "10" ⟨false, ['1', '0'], [], none⟩ (by decide) (by decide) ⟨rfl, rfl⟩

/-- For `x > 10` and `x > 5` the test of the `else` binds 4, which makes both false. -/
theorem elseTest_falsifies_descending :
    subjectlessWhen.kind = .when ∧ subjectlessWhen.condition.getD "" = "" ∧
      (subjectlessModel ["x > 10", "x > 5", "else"]).entriesFor subjectlessWhen ≠ [] ∧
      List.Forall₂ (fun entry (comparison : IntegerComparison subjectTarget.function) =>
        comparison.IsCaseOf entry)
        (((subjectlessModel ["x > 10", "x > 5", "else"]).entriesFor subjectlessWhen).filter
          (!·.isCatchAll))
        [exceedsTen, exceedsFive] ∧
      ∃ result rng' tests test, branchTests {} (subjectlessModel ["x > 10", "x > 5", "else"])
        subjectTarget
          subjectlessWhen ⟨#[], 0⟩ = .ok (result, rng') ∧ result.tests = tests ++ [test] ∧
          test.kind = .whenElse ∧
        ∀ comparison ∈ [exceedsTen, exceedsFive],
          test.truth? comparison.shape = .ok (some false) := by
  have hne : (subjectlessModel ["x > 10", "x > 5", "else"]).entriesFor subjectlessWhen ≠ [] := by
    decide +kernel
  have hwritten : ((subjectlessModel ["x > 10", "x > 5", "else"]).entriesFor subjectlessWhen).filter
    (!·.isCatchAll)
      = [conditionEntry 1 "x > 10", conditionEntry 2 "x > 5"] := by decide +kernel
  have hcases : List.Forall₂
      (fun entry (comparison : IntegerComparison subjectTarget.function) =>
        comparison.IsCaseOf entry)
      (((subjectlessModel ["x > 10", "x > 5", "else"]).entriesFor subjectlessWhen).filter
        (!·.isCatchAll))
      [exceedsTen, exceedsFive] := by
    rw [hwritten]
    refine .cons ⟨{ text := "x > 10" }, ?_, rfl, ?_⟩ (.cons ⟨{ text := "x > 5" }, ?_, rfl, ?_⟩ .nil)
    all_goals decide +kernel
  have hall := @elseTest_falsifies {} _ _ _ _ rfl rfl hne hcases ⟨#[], 0⟩
  have hshort : ∀ comparison ∈ [exceedsTen, exceedsFive], comparison.literal.Short := by
    refine List.forall_mem_cons.2 ⟨fun _ _ => ?_, List.forall_mem_singleton.2 fun _ _ => ?_⟩
    all_goals decide
  obtain ⟨⟨result, rng'⟩, hrun⟩ := hall.1.2 ⟨hshort, fun _ _ => nofun⟩
  obtain ⟨tests, test, htests, hkind, -, hfalse, -⟩ := hall.2 result rng' hrun
  refine ⟨rfl, rfl, hne, hcases, result, rng', tests, test, hrun, htests, hkind, hfalse.2 ?_⟩
  -- the last comparison about `x` is the tightest
  refine List.forall_mem_cons.2 ⟨fun last hlast => ?_,
    List.forall_mem_singleton.2 fun last hlast => ?_⟩
  all_goals
    obtain rfl : exceedsFive = last := Option.some.inj hlast
    decide +kernel

/-- For `x > 5` and `x > 10` the test of the `else` binds 9, for which the first entry is taken,
although 0 makes both false. -/
theorem elseTest_misses :
    ∃ result rng' test, branchTests {} (subjectlessModel ["x > 5", "x > 10", "else"]) subjectTarget
      subjectlessWhen
        ⟨#[], 0⟩ = .ok (result, rng') ∧ result.tests[2]? = some test ∧ test.kind = .whenElse ∧
      test.truth? exceedsFive.shape = .ok (some true) ∧
      boundTruth? [("x", "0")] exceedsFive.shape = .ok (some false) ∧
      boundTruth? [("x", "0")] exceedsTen.shape = .ok (some false) := by
  have hrun : subjectlessRun ["x > 5", "x > 10", "else"] = .ok
      ([(.whenEntry, [("x", "6")]), (.whenEntry, [("x", "11")]), (.whenElse, [("x", "9")])],
        []) := by
    decide +kernel
  obtain ⟨result, rng', test, h, -, htest, hkind, hvalues⟩ :=
    exists_test_of_subjectlessRun hrun (i := 2) rfl
  refine ⟨result, rng', test, h, htest, hkind, ?_, by decide +kernel, by decide +kernel⟩
  rw [TestCase.truth?, hvalues]
  decide +kernel

end BranchCover.Synthesis
