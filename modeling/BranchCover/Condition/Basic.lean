import BranchCover.Text.Blank

/-!
# Conditions

A branch condition is a chain of atoms joined by `&&` and `||`. It is taken apart at the connectives
that stand outside parentheses and outside string and character literals. A `!` met before any
text of an atom negates all that is left, as one atom: `a && !(b || c)` has two atoms, and `!a && b`
has the one negated atom `a && b`.

* `Condition.decompose`: the atoms of a condition.
* `Condition.evaluate`: the outcome of the chain under a truth assignment, folded from left to
  right.
-/

namespace BranchCover

/-- What joins an atom to the one before it. -/
inductive Connective where
  | none
  | and
  | or
  deriving DecidableEq, Repr, Inhabited

/-- Joins the outcome so far with the next atom's contribution. -/
def Connective.join : Connective → Bool → Bool → Bool
  | .and, outcome, value => outcome && value
  | .or, outcome, value => outcome || value
  | .none, _, value => value

/-- One atom of a condition. -/
structure Condition where
  text : String
  connective : Connective := .none
  negated : Bool := false
  deriving DecidableEq, Repr, Inhabited

namespace Condition

/-! ### Taking a condition apart -/

/-- Where a scan stands relative to string and character literals. -/
inductive Quoting where
  /-- Outside every literal. -/
  | outside
  /-- In a literal that the given mark closes. -/
  | inside (mark : Char)
  /-- In a literal, behind a backslash. -/
  | escaped (mark : Char)
  deriving DecidableEq, Repr, Inhabited

/-- Where a scan stands behind a character of a literal. -/
def Quoting.step (mark c : Char) : Quoting :=
  if c = '\\' then .escaped mark else if c = mark then .outside else .inside mark

/-- Whether a character opens a string or character literal. -/
def isQuote (c : Char) : Bool := c == '"' || c == '\''

/-- The connective that two neighbouring characters write, outside parentheses. -/
def connective? (c d : Char) (depth : Int) : Option Connective :=
  if depth = 0 ∧ c = d then
    if c = '&' then some .and else if c = '|' then some .or else none
  else none

/-- The atom that ends with the text read so far (reversed), if that text is not blank. -/
def closeAtom (read : List Char) (connective : Connective) : List Condition :=
  match Text.trim read.reverse with
  | [] => []
  | text => [{ text := String.ofList text, connective }]

/-- The atoms from a point of the condition on. `read` is the text of the atom under way,
reversed. -/
def scan (read : List Char) (connective : Connective) (depth : Int) :
    Quoting → List Char → List Condition
  | _, [] => closeAtom read connective
  | .escaped mark, c :: rest => scan (c :: read) connective depth (.inside mark) rest
  | .inside mark, c :: rest => scan (c :: read) connective depth (.step mark c) rest
  | .outside, c :: rest =>
    if isQuote c then scan (c :: read) connective depth (.inside c) rest
    else if c = '(' then scan (c :: read) connective (depth + 1) .outside rest
    else if c = ')' then scan (c :: read) connective (depth - 1) .outside rest
    else if c = '!' ∧ depth = 0 ∧ Text.isAllBlank read then
      [{ text := String.ofList (Text.trim rest), connective, negated := true }]
    else match rest with
      | [] => closeAtom (c :: read) connective
      | d :: rest' =>
        match connective? c d depth with
        | some next => closeAtom read connective ++ scan [] next depth .outside rest'
        | none => scan (c :: read) connective depth .outside (d :: rest')

/-- The atoms of a condition, in the order in which they are written. -/
def decompose (text : String) : List Condition := scan [] .none 0 .outside text.toList

/-! ### The outcome of a chain -/

/-- Why a chain of atoms has no outcome. -/
inductive EvalError where
  /-- There is no atom. -/
  | empty
  /-- The assignment has another number of truths than the chain has atoms. -/
  | length (expected actual : Nat)
  deriving DecidableEq, Repr

/-- The wording of an error. -/
def EvalError.message : EvalError → String
  | .empty => "Cannot evaluate an empty condition"
  | .length expected actual => s!"Expected {expected} truth values, got {actual}"

/-- What an atom contributes when its text has the given truth. -/
def effective (atom : Condition) (truth : Bool) : Bool := truth != atom.negated

/-- The outcome of the rest of a chain, from the outcome so far. -/
def fold (outcome : Bool) : List Condition → List Bool → Bool
  | atom :: atoms, truth :: truths =>
    fold (atom.connective.join outcome (atom.effective truth)) atoms truths
  | _, _ => outcome

/-- The outcome of a chain of atoms: connectives apply from left to right, without precedence. -/
def outcome : List Condition → List Bool → Bool
  | first :: rest, truth :: truths => fold (first.effective truth) rest truths
  | _, _ => false

/-- The outcome of a chain that has an atom, under an assignment with one truth for each atom. -/
def evaluate (atoms : List Condition) (assignment : List Bool) : Except EvalError Bool :=
  if atoms = [] then .error .empty
  else if assignment.length ≠ atoms.length then .error (.length atoms.length assignment.length)
  else .ok (outcome atoms assignment)

end Condition

end BranchCover
