import BranchCover.Condition.Shape
import BranchCover.Literal.Quoted
import BranchCover.Model.Record
import BranchCover.Oracle.Simulation

/-!
# Assertions

What a test checks on the result of its call. The heuristic oracle guesses a bound from the shape of
the condition and the return type; the exact oracle takes the simulated value of the branch where
there is one.

* `forBranch`, `forWhenEntry`, `forBasic`: the assertions of the kinds of tests.
* `Assertion.render`: the statements of an assertion.
-/

namespace BranchCover

/-- What an assertion checks. -/
inductive AssertionKind where
  | notNull
  | equals
  | notEquals
  | greaterThan
  | atMost
  | lessThan
  | atLeast
  | isTrue
  | isFalse
  | notEmpty
  | emptyOrContains
  | contains
  | notContains
  | completes
  deriving DecidableEq, Repr

/-- One check on the result of a call. -/
structure Assertion where
  kind : AssertionKind
  /-- An expression that the result is compared with. -/
  expected : Option String := none
  message : String := ""
  /-- The expression that is checked. -/
  subject : String := "result"
  deriving DecidableEq, Repr

namespace Assertion

/-- The statements that an assertion is written as. -/
def render (assertion : Assertion) : List String :=
  let subject := assertion.subject
  let expected := assertion.expected.getD "None"
  let tail := if assertion.message = "" then ")" else ", " ++ Literal.quote assertion.message ++ ")"
  match assertion.kind with
  | .notNull =>
    [if assertion.message = "" then "assertNotNull(result)"
     else "assertNotNull(result) // " ++ assertion.message]
  | .completes =>
    ["// " ++ (if assertion.message = "" then "Verifies the call completes without error"
      else assertion.message)]
  | .equals => ["assertEquals(" ++ expected ++ ", " ++ subject ++ tail]
  | .notEquals => ["assertNotEquals(" ++ expected ++ ", " ++ subject ++ tail]
  | .greaterThan => ["assertTrue(" ++ subject ++ " > " ++ expected ++ tail]
  | .atMost => ["assertTrue(" ++ subject ++ " <= " ++ expected ++ tail]
  | .lessThan => ["assertTrue(" ++ subject ++ " < " ++ expected ++ tail]
  | .atLeast => ["assertTrue(" ++ subject ++ " >= " ++ expected ++ tail]
  | .isTrue => ["assertTrue(" ++ subject ++ tail]
  | .isFalse => ["assertFalse(" ++ subject ++ tail]
  | .notEmpty => ["assertTrue(" ++ subject ++ ".isNotEmpty()" ++ tail]
  | .emptyOrContains =>
    ["assertTrue(" ++ subject ++ ".contains(" ++ expected ++ ") || " ++ subject ++ ".isEmpty()"
      ++ tail]
  | .contains => ["assertTrue(" ++ subject ++ ".contains(" ++ expected ++ ")" ++ tail]
  | .notContains => ["assertFalse(" ++ subject ++ ".contains(" ++ expected ++ ")" ++ tail]

end Assertion

namespace Oracle

/-- How the expected result is found. -/
inductive Mode where
  | heuristic
  | exact
  deriving DecidableEq, Repr, Inhabited

/-- The name of a mode. -/
def Mode.text : Mode → String
  | .heuristic => "heuristic"
  | .exact => "exact"

/-- An outcome in capitals. -/
def outcomeLabel (outcome : Bool) : String := if outcome then "TRUE" else "FALSE"

/-- A truth as a literal. -/
def truthText (outcome : Bool) : String := if outcome then "true" else "false"

/-- The expression for the result of a function, which is not null where it is checked further. -/
def resultOf (function : FunctionDecl) : String :=
  if TypeText.isNullable function.returnType then "result!!" else "result"

/-- The check that starts the assertions of most tests. -/
def basicCheck : Assertion := { kind := .notNull, message := "Basic verification" }

/-- The note that a branch of a function without result completes. -/
def completes (condition : String) (outcome : Bool) : Assertion where
  kind := .completes
  message := "Verifies the " ++ outcomeLabel outcome ++ " branch of '" ++ condition
    ++ "' completes without error"

/-- The assertions of a branch with a simulated value, or the given ones if it has none. -/
def simulatedOr (heuristic : List Assertion) (function : FunctionDecl) (body : Option String)
    (bindings : Bindings) : Except Number.Error (List Assertion) :=
  (simulate (body.getD "") bindings function.returnType).map fun
    | some value =>
      [basicCheck,
       { kind := .equals, expected := some value,
         message := "Result should equal the simulated branch value",
         subject := resultOf function }]
    | none => heuristic

/-- The last parameter with a name. -/
def parameter? (function : FunctionDecl) (name : String) : Option Parameter :=
  function.parameters.reverse.find? (·.name == name)

/-- The bound on a numeric result that an atom suggests. -/
def numericCheck (function : FunctionDecl) (condition : String) (shape : Option AtomShape)
    (outcome : Bool) : Assertion :=
  let subject := resultOf function
  let about := "for condition '" ++ condition ++ "'"
  let nonNegative : Assertion :=
    { kind := .atLeast, expected := some "0",
      message := "Expected non-negative result " ++ about, subject }
  let matching (name : String) (holds : Bool) : Assertion :=
    if (parameter? function name).isNone then nonNegative
    else if holds then
      { kind := .equals, expected := some name,
        message := "Result should match parameter " ++ about, subject }
    else
      { kind := .notEquals, expected := some name,
        message := "Result should not match parameter " ++ about, subject }
  match shape with
  | some (.comparison name (some operator) _) =>
    match operator with
    | .greater | .atLeast =>
      { kind := if outcome then .greaterThan else .atMost, expected := some "0",
        message := "Expected " ++ (if outcome then "positive" else "non-positive") ++ " result "
          ++ about,
        subject }
    | .less | .atMost =>
      { kind := if outcome then .lessThan else .atLeast, expected := some "100",
        message := "Expected " ++ (if outcome then "small" else "large") ++ " result " ++ about,
        subject }
    | .equal => matching name outcome
    | .notEqual => matching name (!outcome)
    | .unknown _ => nonNegative
  | _ => nonNegative

/-- The check that a textual result holds a text exactly on a true outcome. -/
def containsCheck (expected what subject : String) (outcome : Bool) : Assertion where
  kind := if outcome then .contains else .notContains
  expected := some expected
  message :=
    if outcome then "Result should contain " ++ what ++ " for TRUE condition"
    else "Result should not contain " ++ what ++ " for FALSE condition"
  subject

/-- The check on a textual result that an atom suggests. -/
def textualCheck (function : FunctionDecl) (condition : String) (shape : Option AtomShape)
    (outcome : Bool) : Assertion :=
  let subject := resultOf function
  let valid : Assertion :=
    { kind := .notNull,
      message := "Result should be valid for branch: " ++ condition ++ " = "
        ++ (if outcome then "True" else "False") }
  match shape with
  | some (.emptiness _ _) =>
    if outcome then
      { kind := .notEmpty,
        message := "Expected non-empty result for condition '" ++ condition ++ "'",
        subject }
    else
      { kind := .emptyOrContains, expected := some "\"empty\"",
        message := "Result should indicate emptiness for FALSE branch", subject }
  | some (.comparison name (some .equal) operand) =>
    match parameter? function name with
    | some parameter =>
      let expected :=
        if TypeText.family parameter.typeName ≠ .textual ∨
            TypeText.isNullable parameter.typeName then
          name ++ ".toString()"
        else name
      containsCheck expected "parameter value" subject outcome
    | none =>
      match operand with
      | some literal =>
        if literal.toList.head? = some '"' then containsCheck literal "literal" subject outcome
        else valid
      | none => valid
  | _ => valid

/-- The check that a truth results from a true outcome. -/
def stateCheck (subject : String) (outcome : Bool) : Assertion where
  kind := .equals
  expected := some (truthText outcome)
  message := "Result should match condition state"
  subject

/-- The check on a boolean result that an atom suggests. -/
def booleanCheck (function : FunctionDecl) (shape : Option AtomShape) (outcome : Bool) :
    Assertion :=
  let subject := resultOf function
  match shape.bind AtomShape.comparator? with
  | some _ =>
    { kind := if outcome then .isTrue else .isFalse,
      message := "Expected " ++ outcomeLabel outcome ++ " result for " ++ outcomeLabel outcome
        ++ " branch condition",
      subject }
  | none => stateCheck subject outcome

/-- The assertions of a branch whose condition is one atom. -/
def forAtom (function : FunctionDecl) (condition : String) (shape : Option AtomShape)
    (outcome : Bool) : List Assertion :=
  match TypeText.family function.returnType with
  | .void => [completes condition outcome]
  | .numeric => [basicCheck, numericCheck function condition shape outcome]
  | .textual => [basicCheck, textualCheck function condition shape outcome]
  | .boolean => [basicCheck, booleanCheck function shape outcome]
  | .other => [basicCheck]

/-- The assertions of a branch whose condition has several atoms. -/
def forCombination (function : FunctionDecl) (condition : String) (outcome : Bool) :
    List Assertion :=
  let subject := resultOf function
  match TypeText.family function.returnType with
  | .void => [completes condition outcome]
  | .numeric =>
    [basicCheck,
     { kind := if outcome then .atLeast else .atMost, expected := some "0",
       message := "Expected " ++ (if outcome then "non-negative" else "non-positive")
         ++ " result when '" ++ condition ++ "' is " ++ outcomeLabel outcome,
       subject }]
  | .boolean => [basicCheck, stateCheck subject outcome]
  | _ => [basicCheck]

/-- The assertions of a test of an `if`. The exact oracle looks at true outcomes only. -/
def forBranch (mode : Mode) (function : FunctionDecl) (conditions : List Condition)
    (condition : String) (outcome : Bool) (bindings : Bindings) (body : Option String) :
    Except Number.Error (List Assertion) :=
  let heuristic :=
    match conditions with
    | [atom] => forAtom function condition (AtomShape.of? atom.text) outcome
    | _ => forCombination function condition outcome
  if outcome ∧ mode = .exact then simulatedOr heuristic function body bindings else .ok heuristic

/-- The expression for the result of a named operation on two parameters. -/
def arithmeticExpression? (operation a b : String) : Option String :=
  if operation = "add" ∨ operation = "sum" then some (a ++ " + " ++ b)
  else if operation = "subtract" then some (a ++ " - " ++ b)
  else if operation = "multiply" then some (a ++ " * " ++ b)
  else if operation = "max" then some ("maxOf(" ++ a ++ ", " ++ b ++ ")")
  else if operation = "min" then some ("minOf(" ++ a ++ ", " ++ b ++ ")")
  else none

/-- An entry's text without the blanks and then the quotes around it. -/
def entryName (entry : String) : String :=
  String.ofList
    (Text.dropEndWhile (· == '"') ((Text.trim entry.toList).dropWhile (· == '"')))

/-- The check that an entry named for an operation suggests on a numeric result. -/
def arithmeticCheck (function : FunctionDecl) (operation : String) (subjectName : Option String) :
    List Assertion :=
  let operands := function.parameters.filter fun parameter =>
    some parameter.name != subjectName && TypeText.family parameter.typeName == .numeric
      && !parameter.isVariadic
  match operands with
  | a :: b :: _ =>
    match arithmeticExpression? operation a.name b.name with
    | some expected =>
      [{ kind := .equals, expected := some expected,
         message := "Result should reflect the '" ++ operation ++ "' operation",
         subject := resultOf function }]
    | none => []
  | _ => []

/-- The heuristic assertions of a test of a `when` entry, for a function with a result. -/
def heuristicEntry (function : FunctionDecl) (entry : String) (subjectName : Option String) :
    List Assertion :=
  let operation := entryName entry
  match TypeText.family function.returnType with
  | .numeric => basicCheck :: arithmeticCheck function operation subjectName
  | .textual =>
    if entry = "else" then [basicCheck]
    else
      [basicCheck,
       { kind := .contains, expected := some (Literal.quote operation),
         message := "Result should reflect the when branch condition",
         subject := resultOf function }]
  | _ => [basicCheck]

/-- The assertions of a test of a `when` entry; `subjectName` is the parameter that the subject is.
The exact oracle leaves the `else` alone. -/
def forWhenEntry (mode : Mode) (function : FunctionDecl) (entry : String) (bindings : Bindings)
    (body : Option String) (subjectName : Option String) : Except Number.Error (List Assertion) :=
  if TypeText.family function.returnType = .void then
    .ok [{ kind := .completes,
           message := "Verifies the '" ++ entry ++ "' branch completes without error" }]
  else
    let heuristic := heuristicEntry function entry subjectName
    if mode = .exact ∧ entry ≠ "else" then simulatedOr heuristic function body bindings
    else .ok heuristic

/-- The assertions of a test that only calls the function. -/
def forBasic (function : FunctionDecl) : List Assertion :=
  if TypeText.family function.returnType = .void then
    [{ kind := .completes, message := "Verifies the method executes without exceptions" }]
  else [{ kind := .notNull, message := "Result should not be null" }]

end Oracle

end BranchCover
