import BranchCover.Condition.Basic
import BranchCover.Random.Twister

/-!
# Truth assignments for a condition

For each condition it is planned which truths its atoms take. The exhaustive policy takes every
assignment; the targeted one looks for one assignment with each outcome, first all true, then all
false, then at random with a lean toward the outcome that is missing.

* `exhaustiveAssignments`: all assignments, in the order of the numbers whose bits they are.
* `targetedSearch`: one assignment for each outcome that was reached.
* `Plan.choose`, `Plan.checked`: the plan for a condition.
-/

namespace BranchCover

/-- One assignment and the outcome it gives. -/
structure Combination where
  assignment : List Bool
  outcome : Bool
  deriving DecidableEq, Repr

/-- How assignments are chosen. -/
inductive Policy where
  | exhaustive
  | targeted
  deriving DecidableEq, Repr, Inhabited

/-- The name of a policy. -/
def Policy.text : Policy → String
  | .exhaustive => "exhaustive"
  | .targeted => "targeted"

/-- The assignments for one condition. -/
structure Plan where
  combinations : List Combination
  policy : Policy
  /-- Whether the search ended with an outcome missing. -/
  exhausted : Bool := false
  deriving DecidableEq, Repr

namespace Plan

/-- The outcomes that a plan reaches, false first. -/
def outcomes (plan : Plan) : List Bool :=
  [false, true].filter fun outcome => plan.combinations.any (·.outcome == outcome)

/-- What a plan depends on. -/
structure Options where
  policy : Policy := .exhaustive
  budget : Int := 100
  maxExhaustiveAtoms : Int := 8
  deriving DecidableEq, Repr

/-- The assignment of so many truths whose `j`-th is the `j`-th bit of a number. -/
def bitAssignment (count i : Nat) : List Bool := (List.range count).map fun j => i.testBit j

/-- All assignments of so many truths, in the order of the numbers whose bits they are. -/
def exhaustiveAssignments (count : Nat) : List (List Bool) :=
  (List.range (Nat.pow 2 count)).map (bitAssignment count)

/-- An assignment with its outcome. -/
def combine (conditions : List Condition) (assignment : List Bool) : Combination :=
  { assignment, outcome := Condition.outcome conditions assignment }

/-- A random assignment: each atom's contribution is the target with a chance of three quarters. -/
def biased (target : Bool) : List Condition → Random (List Bool)
  | [] => pure []
  | atom :: atoms => do
    let hit ← Twister.chance 3
    let truths ← biased target atoms
    return (if atom.negated then hit != target else hit == target) :: truths

/-- The assignment of an attempt: all true, then all false, then random ones. -/
def attempt (conditions : List Condition) (found : List Combination) : Nat → Random (List Bool)
  | 0 => pure (conditions.map fun _ => true)
  | 1 => pure (conditions.map fun _ => false)
  | _ => biased (!found.any (·.outcome)) conditions

/-- Adds a combination unless its outcome is found already. -/
def addNew (found : List Combination) (combination : Combination) : List Combination :=
  if found.any (·.outcome == combination.outcome) then found else found ++ [combination]

/-- The combinations found with so many attempts left, the next of them being the `k`-th. -/
def searchFrom (conditions : List Condition) :
    Nat → Nat → List Combination → Random (List Combination)
  | 0, _, found => pure found
  | left + 1, k, found => do
    let assignment ← attempt conditions found k
    let found := addNew found (combine conditions assignment)
    if found.length = 2 then return found
    searchFrom conditions left (k + 1) found

/-- One combination for each outcome that is reached in so many attempts, in the order of
discovery. -/
def targetedSearch (conditions : List Condition) (budget : Nat) : Random (List Combination) :=
  searchFrom conditions budget 0 []

/-- Whether all assignments of a condition are taken. -/
def isExhaustive (options : Options) (conditions : List Condition) : Bool :=
  options.policy == .exhaustive && (conditions.length : Int) ≤ options.maxExhaustiveAtoms

/-- The plan of the targeted policy. -/
def targeted (conditions : List Condition) (budget : Nat) : Random Plan := do
  let combinations ← targetedSearch conditions budget
  return { combinations, policy := .targeted, exhausted := combinations.length < 2 }

/-- The plan for a condition that has an atom. -/
def choose (options : Options) (conditions : List Condition) : Random Plan :=
  if isExhaustive options conditions then
    pure { combinations := (exhaustiveAssignments conditions.length).map (combine conditions),
           policy := .exhaustive }
  else targeted conditions options.budget.toNat

/-- The plan for a condition; one without atoms has an outcome under no assignment, so its plan
fails at the first assignment. -/
def checked (options : Options) (conditions : List Condition) :
    Except Condition.EvalError (Random Plan) :=
  if conditions.isEmpty && (isExhaustive options conditions || 0 < options.budget) then
    .error .empty
  else .ok (choose options conditions)

end Plan

end BranchCover
