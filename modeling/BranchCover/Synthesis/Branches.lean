import BranchCover.Plan.WhenEntry
import BranchCover.Synthesis.Drive
import BranchCover.Synthesis.Settings
import BranchCover.Synthesis.Target
import BranchCover.Warning

/-!
# Tests of branches

An `if` gets one test for each truth vector that the planned assignments give its atoms. A `when`
gets one test for each entry and one for its `else`.

* `ifTests`: the tests of an `if`.
* `subjectWhenTests`: the tests of a `when` with a subject.
* `subjectlessWhenTests`: the tests of a `when` without one.
-/

namespace BranchCover

/-- Tests with the warnings met while they were made. -/
structure SynthesisResult where
  tests : List TestCase := []
  warnings : List Warning := []
  deriving DecidableEq, Repr

/-- Two results as one. -/
def SynthesisResult.append (first second : SynthesisResult) : SynthesisResult where
  tests := first.tests ++ second.tests
  warnings := first.warnings ++ second.warnings

/-- A computation that draws random numbers and fails where a number cannot be read or written. -/
abbrev SynthesisM := StateT Twister (Except Number.Error)

namespace Synthesis

/-- A computation that draws random numbers and does not fail. -/
def drawing (random : Random α) : SynthesisM α := fun rng => .ok (random rng)

/-- A computation that may fail and draws nothing. -/
def checking (result : Except Number.Error α) : SynthesisM α := fun rng =>
  result.map fun value => (value, rng)

/-! ### `if` -/

/-- The part of a test's name that tells the truths of the atoms. -/
def atomsName (conditions : List Condition) (truths : List Bool) : String :=
  "And".intercalate (List.zipWith
    (fun condition truth => (if truth then "" else "Not") ++ methodName condition.text)
    conditions truths)

/-- The test of an `if` with bound values that give its atoms the given truths. -/
def ifTest (settings : SynthesisSettings) (target : Target) (branch : Branch)
    (conditions : List Condition) (values : Bindings) (truths : List Bool) :
    Except Number.Error TestCase := do
  let condition := branch.condition.getD ""
  let outcome := Condition.outcome conditions truths
  let assertions ←
    Oracle.forBranch settings.oracle target.function conditions condition outcome values branch.body
  return target.testCase (target.testName ("When" ++ atomsName conditions truths)) .branch values
    assertions
    ["Testing branch coverage for condition: '" ++ condition ++ "' is "
      ++ Oracle.outcomeLabel outcome]

/-- The tests for planned assignments, without those whose truths were tested before. -/
def ifTestsFor (settings : SynthesisSettings) (target : Target) (branch : Branch)
    (conditions : List Condition) :
    List (List Bool) → List Combination → Except Number.Error (List TestCase)
  | _, [] => .ok []
  | seen, combination :: rest => do
    let (values, truths) ←
      drive target.function conditions combination.assignment target.neutralValues
    if seen.contains truths then ifTestsFor settings target branch conditions seen rest
    else
      let test ← ifTest settings target branch conditions values truths
      let tests ← ifTestsFor settings target branch conditions (truths :: seen) rest
      return test :: tests

/-- The tests of an `if`. -/
def ifTests (settings : SynthesisSettings) (target : Target) (branch : Branch) :
    SynthesisM SynthesisResult :=
  let conditions := Condition.decompose (branch.condition.getD "")
  if conditions.isEmpty then
    pure { warnings :=
      [{ kind := .analysisInconsistency,
         message := "Branch in " ++ target.function.name ++ " has no condition",
         file := some branch.file, line := some branch.line }] }
  else do
    let plan ← drawing (Plan.choose settings.planOptions conditions)
    let tests ← checking (ifTestsFor settings target branch conditions [] plan.combinations)
    return { tests, warnings :=
      if plan.exhausted then
        [{ kind := .coverageSearchExhausted,
           message := "Only reached " ++ toString plan.combinations.length ++ " of 2 outcomes for '"
             ++ branch.condition.getD "" ++ "' in " ++ target.function.name,
           file := some branch.file, line := some branch.line }]
      else [] }

/-! ### `when` with a subject -/

/-- The parameter that the subject of a `when` is, or else the first that it mentions. -/
def subjectParameter? (function : FunctionDecl) (subject : String) : Option Parameter :=
  let candidates := Target.fixedParameters function.parameters
  let mentioned := (Text.identifiers subject.toList).map fun (_, name) => String.ofList name
  candidates.find? (·.name == trimmed subject)
    <|> candidates.find? fun parameter => mentioned.contains parameter.name

/-- The test that an entry of a `when` with a subject gets. -/
def entryTest (settings : SynthesisSettings) (target : Target) (parent : Branch)
    (parameter : Option Parameter) (entries : List Branch) (value : EntryValue) :
    Except Number.Error TestCase := do
  let values :=
    match parameter, value.value with
    | some parameter, some literal => target.neutralValues.set parameter.name literal
    | _, _ => target.neutralValues
  let entry := value.entryId.bind fun id => entries.reverse.find? (·.id == id)
  let unwritten := value.isElse && entry.isNone
  let assertions ← Oracle.forWhenEntry settings.oracle target.function value.label values
    (entry.bind (·.body)) (parameter.map (·.name))
  return target.testCase
    (target.testName (if unwritten then "WhenElseBranch" else "When" ++ methodName value.label))
    (if value.isElse then .whenElse else .whenEntry)
    values
    assertions
    [if unwritten then "Testing when else branch of when(" ++ parent.condition.getD "" ++ ")"
     else "Testing when branch: " ++ value.label]

/-- The tests that several entries get, one after another. -/
def entryTests (settings : SynthesisSettings) (target : Target) (parent : Branch)
    (parameter : Option Parameter) (entries : List Branch) :
    List EntryValue → Except Number.Error (List TestCase)
  | [] => .ok []
  | value :: rest => do
    let test ← entryTest settings target parent parameter entries value
    let tests ← entryTests settings target parent parameter entries rest
    return test :: tests

/-- The tests of a `when` with a subject. -/
def subjectWhenTests (settings : SynthesisSettings) (target : Target) (parent : Branch)
    (entries : List Branch) : SynthesisM SynthesisResult := do
  let subject := parent.condition.getD ""
  let parameter := subjectParameter? target.function subject
  let draw ← checking (WhenPlan.make entries ((parameter.map (·.typeName)).getD "")
    settings.elseRetryLimit.toNat)
  let plan ← drawing draw
  let tests ← checking (entryTests settings target parent parameter entries plan.values)
  return {
    tests
    warnings :=
      if plan.exhausted then
        [{ kind := .uniquenessRetryExhausted,
           message := "No else value for when(" ++ subject ++ ") in " ++ target.function.name
             ++ " avoids every entry",
           file := some parent.file, line := some parent.line }]
      else [] }

/-! ### `when` without a subject -/

/-- The atoms of the first case of an entry. -/
def firstCase (entry : Branch) : List Condition :=
  match WhenPlan.casesOf entry with
  | [] => []
  | case :: _ => Condition.decompose case

/-- The test of an entry with the given values. -/
def caseTest (settings : SynthesisSettings) (target : Target) (entry : Branch) (values : Bindings) :
    Except Number.Error TestCase := do
  let condition := entry.condition.getD ""
  let assertions ←
    Oracle.forWhenEntry settings.oracle target.function condition values entry.body none
  return target.testCase (target.testName ("When" ++ methodName condition)) .whenEntry values
    assertions
    ["Testing when branch: " ++ entry.condition.getD "None"]

/-- The tests of an entry: its first case is made true, if a planned assignment does so. -/
def caseTests (settings : SynthesisSettings) (target : Target) (entry : Branch) :
    SynthesisM SynthesisResult :=
  let conditions := firstCase entry
  if conditions.isEmpty then do
    let test ← checking (caseTest settings target entry target.neutralValues)
    return { tests := [test] }
  else do
    let plan ← drawing (Plan.choose settings.planOptions conditions)
    match plan.combinations.find? (·.outcome) with
    | none =>
      let test ← checking (caseTest settings target entry target.neutralValues)
      return {
        tests := [test]
        warnings :=
          [{ kind := .coverageSearchExhausted,
             message := "Could not make '" ++ entry.condition.getD "" ++ "' true in "
               ++ target.function.name,
             file := some entry.file, line := some entry.line }] }
    | some chosen =>
      let (values, _) ← checking
        (drive target.function conditions chosen.assignment target.neutralValues)
      let test ← checking (caseTest settings target entry values)
      return { tests := [test] }

/-- The tests of several entries. -/
def allCaseTests (settings : SynthesisSettings) (target : Target) :
    List Branch → SynthesisM SynthesisResult
  | [] => pure {}
  | entry :: rest => do
    let first ← caseTests settings target entry
    let others ← allCaseTests settings target rest
    return first.append others

/-- Values that make each of some atoms contribute false, as far as they can, one after another. -/
def falsify (function : FunctionDecl) (values : Bindings) :
    List Condition → Except Number.Error Bindings
  | [] => .ok values
  | atom :: rest => do
    let (values, _) ← drive function [atom] [atom.negated] values
    falsify function values rest

/-- The test of the `else`: the first atom of each entry is made false. -/
def elseTest (settings : SynthesisSettings) (target : Target) (entries : List Branch) :
    Except Number.Error TestCase := do
  let atoms := (entries.filter (!·.isCatchAll)).filterMap fun entry => (firstCase entry).head?
  let values ← falsify target.function target.neutralValues atoms
  let catchAll := (entries.filter (·.isCatchAll)).getLast?
  let assertions ← Oracle.forWhenEntry settings.oracle target.function "else" values
    (catchAll.bind (·.body)) none
  return target.testCase
    (target.testName (if catchAll.isSome then "WhenElse" else "WhenElseBranch")) .whenElse values
    assertions
    ["Testing when else branch"]

/-- The tests of a `when` without a subject. -/
def subjectlessWhenTests (settings : SynthesisSettings) (target : Target) (entries : List Branch) :
    SynthesisM SynthesisResult := do
  let cases ← allCaseTests settings target (entries.filter (!·.isCatchAll))
  let last ← checking (elseTest settings target entries)
  return cases.append { tests := [last] }

/-- The tests of a `when`; one without entries has none. -/
def whenTests (settings : SynthesisSettings) (model : Model) (target : Target) (parent : Branch) :
    SynthesisM SynthesisResult :=
  match model.entriesFor parent with
  | [] => pure {}
  | entries =>
    if parent.condition.getD "" = "" then subjectlessWhenTests settings target entries
    else subjectWhenTests settings target parent entries

end Synthesis

end BranchCover
