import BranchCover.Condition.Basic
import BranchCover.Literal.Number
import BranchCover.Text.Scan
import BranchCover.Text.Word

/-!
# Shapes of atoms

The forms of an atom that say which value of its subject makes it true: a comparison `x > 19`, a
test for emptiness `name.isBlank()`, or a bare name.

* `stripParentheses`: a text without the parentheses that wrap all of it.
* `AtomShape.of?`: the shape of an atom's text. A literal on the left is brought to the right.
* `methodName`: a text as a fragment of a method name.
-/

namespace BranchCover

/-- The operator of a comparison. -/
inductive Comparator where
  | greater
  | atLeast
  | less
  | atMost
  | equal
  | notEqual
  /-- A text that is no comparison operator. -/
  | unknown (text : String)
  deriving DecidableEq, Repr, Inhabited

namespace Comparator

/-- How an operator is written. -/
def text : Comparator → String
  | greater => ">"
  | atLeast => ">="
  | less => "<"
  | atMost => "<="
  | equal => "=="
  | notEqual => "!="
  | unknown text => text

/-- The operators, the longer spellings first. -/
def all : List Comparator := [atLeast, atMost, equal, notEqual, greater, less]

/-- The operator that a text writes. -/
def ofText (text : String) : Comparator :=
  (all.find? (·.text == text)).getD (unknown text)

/-- The operator that says the same with the sides exchanged. -/
def flip : Comparator → Comparator
  | greater => less
  | less => greater
  | atLeast => atMost
  | atMost => atLeast
  | other => other

/-- The operator at the head of a text, and the rest. -/
def read? : List Char → Option (Comparator × List Char)
  | '>' :: '=' :: rest => some (atLeast, rest)
  | '<' :: '=' :: rest => some (atMost, rest)
  | '=' :: '=' :: rest => some (equal, rest)
  | '!' :: '=' :: rest => some (notEqual, rest)
  | '>' :: rest => some (greater, rest)
  | '<' :: rest => some (less, rest)
  | _ => none

end Comparator

/-- A form of an atom that tells how its subject decides its truth. -/
inductive AtomShape where
  /-- `subject operator operand`. -/
  | comparison (subject : String) (operator : Option Comparator) (operand : Option String)
  /-- `subject.predicate()`. -/
  | emptiness (subject predicate : String)
  /-- `subject`. -/
  | boolean (subject : String)
  deriving DecidableEq, Repr

/-- The name that an atom is about. -/
def AtomShape.subject : AtomShape → String
  | comparison subject _ _ => subject
  | emptiness subject _ => subject
  | boolean subject => subject

/-- The operator of a comparison. -/
def AtomShape.comparator? : AtomShape → Option Comparator
  | comparison _ operator _ => operator
  | _ => none

namespace Condition

/-! ### Wrapping parentheses -/

/-- Whether the depth of parentheses, from the given one on, is zero before the last character. -/
def closesEarly (depth : Int) : List Char → Bool
  | [] => false
  | [_] => false
  | c :: rest =>
    let depth := if c = '(' then depth + 1 else if c = ')' then depth - 1 else depth
    depth == 0 || closesEarly depth rest

/-- Whether the first and the last character are parentheses that belong together. -/
def isWrapped (text : List Char) : Bool :=
  text.head? == some '(' && text.getLast? == some ')' && !closesEarly 0 text

/-- Takes up to a number of layers of parentheses from a text. -/
def stripLayers : Nat → List Char → List Char
  | 0, text => text
  | layers + 1, text =>
    if isWrapped text then stripLayers layers (Text.trim (Text.innerText text)) else text

/-- A text without the blanks and the parentheses that wrap all of it. -/
def stripParenthesesChars (text : List Char) : List Char :=
  stripLayers text.length (Text.trim text)

/-- A text without the blanks and the parentheses that wrap all of it. -/
def stripParentheses (text : String) : String :=
  String.ofList (stripParenthesesChars text.toList)

/-! ### Recognized forms -/

/-- The predicates that test for emptiness. -/
def emptinessPredicates : List String :=
  ["isEmpty", "isBlank", "isNotEmpty", "isNotBlank", "isNullOrEmpty", "isNullOrBlank"]

/-- The form `name.isEmpty()` or `name?.isEmpty()`. -/
def emptiness? (text : List Char) : Option AtomShape :=
  match Text.identifier? text with
  | none => none
  | some (subject, rest) =>
    let rest := match rest with
      | '?' :: rest => rest
      | rest => rest
    match rest with
    | '.' :: call =>
      (emptinessPredicates.find? fun predicate => predicate.toList ++ ['(', ')'] == call).map
        fun predicate => .emptiness (String.ofList subject) predicate
    | _ => none

/-- The form `name operator operand`, with an operand of one line that starts with no `=`. -/
def subjectFirst? (text : List Char) : Option AtomShape :=
  match Text.identifier? text with
  | none => none
  | some (subject, rest) =>
    match Comparator.read? (Text.trimStart rest) with
    | none => none
    | some (operator, rest) =>
      let operand := Text.trimStart rest
      if operand.isEmpty || operand.contains '\n' || operand.head? == some '=' then none
      else some (.comparison (String.ofList subject) operator (String.ofList operand))

/-- An operator and one identifier, which end the text. -/
def operatorAndName? (text : List Char) : Option (Comparator × List Char) :=
  match Comparator.read? (Text.trimStart text) with
  | none => none
  | some (operator, rest) =>
    let name := Text.trimStart rest
    if Text.isIdentifier name then some (operator, name) else none

/-- The shortest non-empty beginning of one line that an operator and a name follow. `read` is the
beginning read so far, reversed. -/
def splitOperand? (read : List Char) : List Char → Option (List Char × Comparator × List Char)
  | [] => none
  | c :: rest =>
    if c = '\n' then none
    else match operatorAndName? rest with
      | some (operator, name) => some ((c :: read).reverse, operator, name)
      | none => splitOperand? (c :: read) rest

/-- Whether a text is a literal: a number, a text in quotes, a character, a truth or `null`. -/
def isLiteral (text : List Char) : Bool :=
  Literal.isNumber text
    || (2 ≤ text.length && text.head? == some '"' && text.getLast? == some '"'
        && !text.contains '\n')
    || (match text with
        | ['\'', c, '\''] => c != '\n'
        | _ => false)
    || text == "true".toList || text == "false".toList || text == "null".toList

/-- The form `literal operator name`. -/
def subjectLast? (text : List Char) : Option AtomShape :=
  match splitOperand? [] text with
  | none => none
  | some (operand, operator, subject) =>
    let operand := Text.trim operand
    if isLiteral operand then
      some (.comparison (String.ofList subject) operator.flip (String.ofList operand))
    else none

/-- A bare name other than a truth. -/
def bareName? (text : List Char) : Option AtomShape :=
  if Text.isIdentifier text && text != "true".toList && text != "false".toList then
    some (.boolean (String.ofList text))
  else none

end Condition

/-- The shape of an atom's text, once the parentheses around all of it are gone. -/
def AtomShape.of? (text : String) : Option AtomShape :=
  let text := Condition.stripParenthesesChars text.toList
  Condition.emptiness? text <|> Condition.subjectFirst? text <|> Condition.subjectLast? text
    <|> Condition.bareName? text

/-! ### Names made of conditions -/

/-- A word with its first ASCII letter in upper case. -/
def capitalizeAscii : List Char → List Char
  | [] => []
  | c :: rest => c.toUpper :: rest

/-- The ASCII words of a text, each capitalized, without what stands between them. -/
def methodName (text : String) : String :=
  String.ofList ((Text.fields (!·.isAlphanum) text.toList).flatMap capitalizeAscii)

end BranchCover
