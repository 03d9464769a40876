import BranchCover.Text.Blank
import BranchCover.Text.Scan

/-!
# Types as text

Types are never resolved: `List<Map<String, Int>>?` is taken apart as text. The empty text stands
for a missing type.

* `base`: the name without nullability, arguments and package.
* `arguments`: the outermost generic arguments.
* `functionParts`: the parameters and the result of a function type.
* `family`: the bucket of types that a base name belongs to.
-/

namespace BranchCover.TypeText

/-! ### Known names -/

/-- The integral types whose literals have no suffix. -/
def integerNames : List String := ["Int", "Short", "Byte"]

/-- The integral types whose literals have the suffix `L`. -/
def longNames : List String := ["Long"]

/-- The floating types. -/
def floatingNames : List String := ["Double", "Float"]

/-- All types of numbers. -/
def numericNames : List String := integerNames ++ longNames ++ floatingNames

/-- The types of texts. -/
def textualNames : List String := ["String", "CharSequence"]

/-- The types with no value to look at. -/
def voidNames : List String := ["Unit", "Nothing"]

/-- The function that makes a collection of a type. -/
def collectionFactories : List (String × String) :=
  [("List", "listOf"), ("MutableList", "mutableListOf"), ("Set", "setOf"),
   ("MutableSet", "mutableSetOf"), ("Map", "mapOf"), ("MutableMap", "mutableMapOf")]

/-- The function that makes an array of a type. -/
def arrayFactories : List (String × String) :=
  [("IntArray", "intArrayOf"), ("LongArray", "longArrayOf"), ("DoubleArray", "doubleArrayOf"),
   ("FloatArray", "floatArrayOf"), ("BooleanArray", "booleanArrayOf"),
   ("CharArray", "charArrayOf")]

/-- The least and the greatest value of an integral type. -/
def integralBounds? (name : String) : Option (Int × Int) :=
  if name = "Byte" then some (-128, 127)
  else if name = "Short" then some (-32768, 32767)
  else if name = "Int" then some (-2147483648, 2147483647)
  else if name = "Long" then some (-9223372036854775808, 9223372036854775807)
  else none

/-! ### Taking a type apart -/

/-- A trimmed type without the question marks at its end. -/
def withoutMarks (type : String) : List Char :=
  Text.dropEndWhile (· == '?') (Text.trim type.toList)

/-- Whether a type admits `null`. -/
def isNullable (type : String) : Bool := (Text.trim type.toList).getLast? == some '?'

/-- Whether parentheses stand at both ends of a text. -/
def hasParentheses (text : List Char) : Bool :=
  text.head? == some '(' && text.getLast? == some ')'

/-- Whether a type is a function type such as `(Int, String) -> Boolean`. -/
def isFunction (type : String) : Bool :=
  let text := withoutMarks type
  let text := if hasParentheses text then Text.trim (Text.innerText text) else text
  Text.contains ['-', '>'] text

/-- The name of a type without nullability, generic arguments and package. -/
def base (type : String) : String :=
  let text := Text.trim (withoutMarks type)
  let text := text.takeWhile (· != '<')
  String.ofList (Text.trim (Text.afterLast '.' text))

/-- The text between the first `<` and the last `>` behind it. -/
def argumentText (type : String) : List Char :=
  match Text.splitFirst? '<' (withoutMarks type) with
  | none => []
  | some (_, rest) =>
    match Text.splitLast? '>' rest with
    | none => []
    | some (inner, _) => inner

/-- The pieces of an argument text between the commas outside angle brackets. A blank last piece is
dropped. `read` is the piece under way, reversed. -/
def splitArguments (read : List Char) (depth : Int) : List Char → List (List Char)
  | [] =>
    match Text.trim read.reverse with
    | [] => []
    | text => [text]
  | c :: rest =>
    let depth := if c = '<' then depth + 1 else if c = '>' then depth - 1 else depth
    if c = ',' ∧ depth = 0 then Text.trim read.reverse :: splitArguments [] depth rest
    else splitArguments (c :: read) depth rest

/-- A text without a given beginning, if it has it. -/
def withoutHead (head text : List Char) : List Char := (Text.dropHead? head text).getD text

/-- An argument without its projection. -/
def withoutProjection (argument : List Char) : List Char :=
  Text.trim (withoutHead "in ".toList (withoutHead "out ".toList argument))

/-- The outermost generic arguments of a type, without their projections. -/
def arguments (type : String) : List String :=
  (splitArguments [] 0 (argumentText type)).map (String.ofList ∘ withoutProjection)

/-- The parts of a function type at the first arrow outside brackets. `previous` is the character
before the text, and `read` is the text read so far, reversed. -/
def splitArrow? (read : List Char) (previous : Char) (depth : Int) :
    List Char → Option (List Char × List Char)
  | [] => none
  | c :: rest =>
    if c = '(' ∨ c = '<' then splitArrow? (c :: read) c (depth + 1) rest
    else if c = ')' ∨ (c = '>' ∧ previous ≠ '-') then splitArrow? (c :: read) c (depth - 1) rest
    else if c = '-' ∧ depth = 0 ∧ rest.head? = some '>' then some (read.reverse, rest.tail)
    else splitArrow? (c :: read) c depth rest

/-- The parameter types and the result type of a function type; of any other type, no parameters and
`Unit`. -/
def functionParts (type : String) : List String × String :=
  let text := Text.trim (withoutMarks type)
  let text :=
    if hasParentheses text && Text.contains ['-', '>'] (Text.innerText text) then
      Text.trim (Text.innerText text)
    else text
  match splitArrow? [] (text.getLast?.getD ' ') 0 text with
  | none => ([], "Unit")
  | some (parameters, result) =>
    let parameters := Text.trim parameters
    let parameters := if hasParentheses parameters then Text.innerText parameters else parameters
    (((Text.splitAtChars (· == ',') parameters).map Text.trim).filter (!·.isEmpty)
      |>.map String.ofList, String.ofList (Text.trim result))

/-! ### Families -/

/-- The buckets of types that results are judged by. -/
inductive Family where
  | numeric
  | textual
  | boolean
  | void
  | other
  deriving DecidableEq, Repr, Inhabited

/-- The bucket that the base name of a type belongs to. -/
def family (type : String) : Family :=
  let name := base type
  if name = "" ∨ name ∈ voidNames then .void
  else if name ∈ numericNames then .numeric
  else if name ∈ textualNames then .textual
  else if name = "Boolean" then .boolean
  else .other

end BranchCover.TypeText
