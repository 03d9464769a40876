import BranchCover.Bindings
import BranchCover.Literal.Number
import BranchCover.Number.Basic
import BranchCover.Text.Word
import BranchCover.TypeText

/-!
# Simulated bodies

The exact result of a body of one expression on integers: an operand, or two operands with one of
`+ - * / %` between them. Quotients go toward zero, and remainders have the sign of the dividend.

* `statement?`: the one statement of a body.
* `Expression.read?`: the expression that a statement writes.
* `simulate`: the result of a body as a literal of the return type.
-/

namespace BranchCover.Oracle

/-- The operations on integers. -/
inductive Operation where
  | plus
  | minus
  | times
  | divide
  | remainder
  deriving DecidableEq, Repr

/-- The operation that a character writes. -/
def Operation.ofChar? (c : Char) : Option Operation :=
  if c = '+' then some .plus
  else if c = '-' then some .minus
  else if c = '*' then some .times
  else if c = '/' then some .divide
  else if c = '%' then some .remainder
  else none

/-- The result of an operation; a division by zero has none. -/
def Operation.apply? : Operation → Int → Int → Option Int
  | plus, a, b => some (a + b)
  | minus, a, b => some (a - b)
  | times, a, b => some (a * b)
  | divide, a, b => if b = 0 then none else some (a.tdiv b)
  | remainder, a, b => if b = 0 then none else some (a.tmod b)

/-- An operand: a name, or an integer literal. -/
inductive Operand where
  | name (text : String)
  | integer (literal : Literal.IntegerLiteral)
  deriving DecidableEq, Repr

/-- The rest of an integer literal behind its digits. -/
def dropLongMark : List Char → List Char
  | 'L' :: rest => rest
  | rest => rest

/-- The operand at the head of a text, and the rest. -/
def Operand.split? (text : List Char) : Option (Operand × List Char) :=
  match Text.identifier? text with
  | some (word, rest) => some (.name (String.ofList word), rest)
  | none =>
    (Literal.IntegerLiteral.split? text).map fun (literal, rest) =>
      (.integer literal, dropLongMark rest)

/-- An expression: an operand, or an operation on two. -/
inductive Expression where
  | operand (a : Operand)
  | binary (op : Operation) (a b : Operand)
  deriving DecidableEq, Repr

/-- The expression that a statement writes. -/
def Expression.read? (text : List Char) : Option Expression :=
  match Operand.split? text with
  | none => none
  | some (a, []) => some (.operand a)
  | some (a, rest) =>
    match Text.trimStart rest with
    | [] => none
    | c :: rest =>
      match Operation.ofChar? c, Operand.split? (Text.trimStart rest) with
      | some op, some (b, []) => some (.binary op a b)
      | _, _ => none

/-- The integer that a bound value is a literal of; any other value has none. -/
def boundInteger (value : String) : Except Number.Error (Option Int) :=
  match Literal.IntegerLiteral.split? (Text.trim value.toList) with
  | some (literal, rest) =>
    if (dropLongMark rest).isEmpty then literal.value.map some else .ok none
  | none => .ok none

/-- The value of an operand under bindings; a name that is not bound to an integer has none. -/
def Operand.value (bindings : Bindings) : Operand → Except Number.Error (Option Int)
  | integer literal => literal.value.map some
  | name text =>
    match bindings.get? text with
    | some value => boundInteger value
    | none => .ok none

/-- The value of an expression under bindings, if its operands have values. -/
def Expression.value (bindings : Bindings) : Expression → Except Number.Error (Option Int)
  | operand a => a.value bindings
  | binary op a b => do
    let left ← a.value bindings
    let right ← b.value bindings
    match left, right with
    | some x, some y => return op.apply? x y
    | _, _ => return none

/-- The one statement of a body, without `=`, braces and `return`. -/
def statement? (body : String) : Option (List Char) :=
  let text := Text.trim body.toList
  let text := match text with
    | '=' :: rest => Text.trim rest
    | text => text
  let text :=
    if text.head? == some '\x7b' && text.getLast? == some '\x7d' then
      Text.trim (Text.innerText text)
    else text
  let lines := (Text.splitAtChars (fun c => c == ';' || c == '\n') text).map Text.trim
  match lines.filter (!·.isEmpty) with
  | [line] =>
    match Text.dropHead? "return ".toList line with
    | some rest => some (Text.trim rest)
    | none => some line
  | _ => none

/-- An integer as a literal of a return type, unless it overflows. -/
def resultText? (n : Int) (type : String) : Option String :=
  if type = "Long" then
    if -9223372036854775808 ≤ n ∧ n ≤ 9223372036854775807 then some (Number.intText n ++ "L")
    else none
  else if -2147483648 ≤ n ∧ n ≤ 2147483647 then some (Number.intText n) else none

/-- The result of a body as a literal of the return type, if the body is an expression on integers,
its operands are bound to integers, and the result does not overflow. -/
def simulate (body : String) (bindings : Bindings) (returnType : String) :
    Except Number.Error (Option String) :=
  let type := TypeText.base returnType
  if type ∈ ["Int", "Long", "Short", "Byte"] then
    match (statement? body).bind Expression.read? with
    | some expression => (expression.value bindings).map fun n => n.bind (resultText? · type)
    | none => .ok none
  else .ok none

end BranchCover.Oracle
