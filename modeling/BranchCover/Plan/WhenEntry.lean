import BranchCover.ArgumentList
import BranchCover.Model.Record
import BranchCover.Number.Basic
import BranchCover.Random.Twister

/-!
# Subject values for the entries of a `when`

Each entry of a `when` with a subject gets a value of the subject that selects it, and the `else`
gets a value that differs from every case, drawn again as long as it is taken.

* `entryValue?`: the subject that matches the first case of an entry.
* `numericCases`: the numbers that cases stand for.
* `elseValue`: a subject that matches no case.
* `WhenPlan.make`: one value for each entry and one for the `else`.
-/

namespace BranchCover

/-- The subject value for one entry of a `when`. -/
structure EntryValue where
  /-- The number of the entry; the value of an `else` that is not written has none. -/
  entryId : Option Int
  label : String
  /-- The value, unless the entry's case is no literal. -/
  value : Option String
  isElse : Bool := false
  deriving DecidableEq, Repr

/-- The subject values for a `when`. -/
structure WhenPlan where
  values : List EntryValue := []
  hasCatchAll : Bool := false
  /-- Whether every draw of an `else` value was taken. -/
  exhausted : Bool := false
  deriving DecidableEq, Repr

namespace WhenPlan

/-! ### Cases -/

/-- A range of integers as a case, with its ends as they are written. -/
structure RangeCase where
  low : Literal.IntegerLiteral
  high : Literal.IntegerLiteral
  /-- Whether the upper end belongs to the range. -/
  inclusive : Bool
  deriving DecidableEq, Repr

/-- What divides the ends of a range, with the blanks around it: whether the upper end belongs to
the range, and the rest. -/
def rangeMark? (text : List Char) : Option (Bool × List Char) :=
  match Text.trimStart text with
  | '.' :: '.' :: '<' :: rest => some (false, Text.trimStart rest)
  | '.' :: '.' :: rest => some (true, Text.trimStart rest)
  | 'u' :: 'n' :: 't' :: 'i' :: 'l' :: c :: rest =>
    if (text.head?.any Text.isBlank) && Text.isBlank c then some (false, Text.trimStart rest)
      else none
  | _ => none

/-- The rest of a case behind `in` and at least one blank, or all of it. -/
def withoutIn : List Char → List Char
  | 'i' :: 'n' :: c :: rest => if Text.isBlank c then Text.trimStart rest
      else 'i' :: 'n' :: c :: rest
  | text => text

/-- A range `a..b`, `a..<b` or `a until b` of plain integers, with or without `in`. -/
def rangeCase? (text : List Char) : Option RangeCase :=
  match Literal.IntegerLiteral.split? (withoutIn text) with
  | none => none
  | some (low, rest) =>
    match rangeMark? rest with
    | none => none
    | some (inclusive, upper) =>
      match Literal.IntegerLiteral.split? upper with
      | some (high, []) => some { low, high, inclusive }
      | _ => none

/-- The subject that matches the first case of an entry, unless that is no literal. -/
def entryValue? : List String → Option String
  | [] => none
  | first :: _ =>
    let text := Text.trim first.toList
    if ["is ", "!is ", "!in "].any fun head => Text.startsWith text head.toList then none
    else match rangeCase? text with
      | some range => some (String.ofList range.low.text)
      | none => if Text.startsWith text "in ".toList then none else some (String.ofList text)

/-- The value of a case that is a number literal: its digits without suffix and underscores,
floating if it has a point or ends in a floating suffix. Any other case has none. -/
def caseNumber (text : List Char) : Except Number.Error (Option Number) :=
  let text := Text.trim text
  if Literal.isNumber text then
    let digits := Number.plainDigits (Text.dropEndWhile Literal.numberSuffixes.contains text)
    let (negative, digits) : Bool × List Char :=
      match digits with
      | '-' :: rest => (true, rest)
      | rest => (false, rest)
    match Text.splitFirst? '.' digits with
    | some (whole, fraction) => .ok (some (.floating (Number.readFloating negative whole fraction)))
    | none =>
      if text.getLast?.any Literal.floatingSuffixes.contains then
        .ok (some (.floating (Number.readFloating negative digits [])))
      else (Number.readInteger negative digits).map fun n => some (.integer n)
  else .ok none

/-- The numbers that a case of a numeric subject stands for. -/
inductive NumericCase where
  | number (n : Number)
  | range (low high : Int) (inclusive : Bool)
  deriving DecidableEq, Repr

/-- Whether an integer is the number of a case or lies in its range. -/
def NumericCase.holds (n : Int) : NumericCase → Bool
  | number m => m.compare (.integer n) == .eq
  | range low high inclusive => low ≤ n && (if inclusive then n ≤ high else n < high)

/-- The numbers of a case that is a range or a number literal; any other case has none. -/
def numericCase (case : String) : Except Number.Error (Option NumericCase) :=
  let text := Text.trim case.toList
  match rangeCase? text with
  | some range => do
    let low ← range.low.value
    let high ← range.high.value
    return some (.range low high range.inclusive)
  | none => (caseNumber text).map fun number => number.map .number

/-- The numbers of all cases that have any, read in the order of the cases. -/
def numericCases : List String → Except Number.Error (List NumericCase)
  | [] => .ok []
  | case :: rest => do
    let first ← numericCase case
    let others ← numericCases rest
    return first.toList ++ others

/-! ### Values that match no case -/

/-- Draws until a draw is not taken, at most so often; the last draw stands if all were taken. The
second part tells whether they were. -/
def drawUntaken (draw : Random α) (taken : α → Bool) : Nat → α → Random (α × Bool)
  | 0, last => pure (last, true)
  | left + 1, _ => do
    let drawn ← draw
    if taken drawn then drawUntaken draw taken left drawn else return (drawn, false)

/-- An integer as a literal of a numeric type. -/
def formatInt (n : Int) (type : String) : String :=
  if type ∈ TypeText.longNames then Number.intText n ++ "L"
  else if type = "Float" then Number.intText n ++ ".0f"
  else if type = "Double" then Number.intText n ++ ".0"
  else Number.intText n

/-- The text of a string that an `else` value is drawn from. -/
def elseText : Random String := do
  let n ← Twister.below 100
  return "\"else_case_" ++ Number.intText n ++ "\""

/-- The lower-case ASCII letters. -/
def lowerLetters : List Char := "abcdefghijklmnopqrstuvwxyz".toList

/-- A character literal that an `else` value is drawn from. -/
def elseLetter : Random String := do
  let c ← Twister.choose 'a' lowerLetters
  return String.ofList ['\'', c, '\'']

/-- A subject value of a numeric type that no case holds of, and whether every draw was taken. -/
def elseNumber (cases : List NumericCase) (name : String) (retryLimit : Nat) :
    Random (Option String × Bool) := do
  let (n, exhausted) ←
    drawUntaken (Twister.between (-100) 100) (fun n => cases.any (·.holds n)) retryLimit 0
  return (some (formatInt n name), exhausted)

/-- A subject value of a type whose literals are equal only as texts, and whether every draw was
taken. Types without literals have no value. -/
def elseSymbol (taken : List String) (name : String) (retryLimit : Nat) :
    Random (Option String × Bool) :=
  if name ∈ TypeText.textualNames then do
    let (text, exhausted) ← drawUntaken elseText (fun text => taken.contains text) retryLimit ""
    return (some text, exhausted)
  else if name = "Char" then do
    let (text, exhausted) ← drawUntaken elseLetter (fun text =>
      taken.contains text) retryLimit "'a'"
    return (some text, exhausted)
  else if name = "Boolean" then
    if "true" ∉ taken then pure (some "true", false)
    else pure (some "false", taken.contains "false")
  else pure (none, false)

/-- A subject value of a type that matches none of the used cases, and whether every draw was taken.
Only a numeric type reads the numbers of the cases. -/
def elseValue (used : List String) (type : String) (retryLimit : Nat) :
    Except Number.Error (Random (Option String × Bool)) :=
  let name := TypeText.base type
  if name ∈ TypeText.numericNames then
    (numericCases used).map fun cases => elseNumber cases name retryLimit
  else .ok (elseSymbol (used.map trimmed) name retryLimit)

/-! ### The plan of a `when` -/

/-- The cases of an entry. -/
def casesOf (entry : Branch) : List String := ArgumentList.split (entry.condition.getD "")

/-- The value of an entry that is no `else`. -/
def valueOf (entry : Branch) : EntryValue where
  entryId := some entry.id
  label := entry.condition.getD ""
  value := entryValue? (casesOf entry)

/-- The values of the entries in their order. The `else` value is put in at the place that the first
`else` entry has among all entries, of which later ones are left out; without any it comes last. -/
def arrange (elseLiteral : Option String) (entries : List Branch) : List EntryValue :=
  let values := (entries.filter (!·.isCatchAll)).map valueOf
  match entries.find? (·.isCatchAll) with
  | none => values ++ [{ entryId := none, label := "else", value := elseLiteral, isElse := true }]
  | some catchAll =>
    values.insertIdx (min (entries.idxOf catchAll) values.length)
      { entryId := some catchAll.id, label := "else", value := elseLiteral, isElse := true }

/-- One value for each entry of a `when` and one for its `else`. -/
def make (entries : List Branch) (subjectType : String) (retryLimit : Nat) :
    Except Number.Error (Random WhenPlan) := do
  let used := (entries.filter (!·.isCatchAll)).flatMap casesOf
  let draw ← elseValue used subjectType retryLimit
  return do
    let (elseLiteral, exhausted) ← draw
    return {
      values := arrange elseLiteral entries
      hasCatchAll := entries.any (·.isCatchAll)
      exhausted }

end WhenPlan

end BranchCover
