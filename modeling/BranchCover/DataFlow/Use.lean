import BranchCover.Model.Basic
import BranchCover.Text.Mention

/-!
# Finding definitions and uses

There is no table of symbols: a name counts as the use of a variable if some variable, parameter or
loop variable anywhere in the model has that name.

* `definitions`: the definitions of a model.
* `uses`: the uses of the defined names, with or without repetitions.
-/

namespace BranchCover.DataFlow

/-- The scope of a line, or the given scope where the line is unknown. -/
def scopeAt (model : Model) (file : String) (line : Int) (otherwise : String) : String :=
  ((model.lineContext? file line).map (·.scope)).getD otherwise

/-- The definition that a variable of the model is. -/
def variableDefinition (index : Nat) (declared : Variable) : Definition where
  name := declared.name
  file := declared.file
  line := declared.line
  scope := declared.scope
  kind := if declared.isParameter then .parameter else .declaration
  variableIndex := some index

/-- The definitions that the parameters of a function are. -/
def parameterDefinitions (function : FunctionDecl) : List Definition :=
  function.parameters.map fun parameter =>
    { name := parameter.name, file := function.file, line := function.line, scope := function.scope,
      kind := .parameter }

/-- The definition that the variable of a `for` is. -/
def loopDefinition (model : Model) (loop : Loop) : List Definition :=
  if loop.kind = .forEach ∧ loop.loopVariable.getD "" ≠ "" then
    [{ name := loop.loopVariable.getD "", file := loop.file, line := loop.line,
       scope := scopeAt model loop.file loop.line loop.scope, kind := .loopVariable }]
  else []

/-- The definitions of a model: its variables, the parameters of its functions, its loop
variables. -/
def definitions (model : Model) : List Definition :=
  model.variableDecls.mapIdx variableDefinition
    ++ model.functions.flatMap parameterDefinitions
    ++ model.loops.flatMap (loopDefinition model)

/-- Whether a name is that of a variable. -/
def isLikelyVariable (name : String) (known : List String) : Bool := known.contains name

/-- What a name on a line is read for. -/
def useKind (name : String) (context : Option LineContext) : UseKind :=
  match context with
  | none => .computation
  | some context =>
    let word := name.toList
    let code := context.code.toList
    if context.calls.any fun call =>
        call.arguments.any fun text => Text.mentions word text.toList then .functionArg
    else if Text.indexes word code then .arrayIndex
    else if Text.mentions word (context.controlFlow.getD "").toList
        && context.controlFlow.getD "" != "" then .condition
    else if Text.startsWith code "return".toList
        && !(code.drop "return".length).head?.any Text.isWord then .returned
    else .computation

/-- The use that a reference is. -/
def referenceUse (model : Model) (reference : Reference) : Use :=
  let context := model.lineContext? reference.file reference.line
  { name := reference.name, file := reference.file, line := reference.line,
    scope := (context.map (·.scope)).getD reference.scope, kind := useKind reference.name context }

/-- The uses that the arguments of a call are, where they are bare names. -/
def callUses (model : Model) (known : List String) (call : FunctionCall) : List Use :=
  ((call.arguments.map trimmed).filter fun argument =>
      Text.isIdentifier argument.toList && known.contains argument).map fun argument =>
    { name := argument, file := call.file, line := call.line,
      scope := scopeAt model call.file call.line call.scope, kind := .functionArg }

/-- The words of Kotlin that name no variable. -/
def keywords : List String :=
  ["as", "break", "class", "continue", "do", "else", "false", "for", "fun", "if", "in", "interface",
   "is", "null", "object", "package", "return", "super", "this", "throw", "true", "try",
   "typealias", "val", "var", "when", "while"]

/-- The first occurrences of the members of a list. -/
def firsts [BEq α] (members : List α) : List α :=
  members.foldl (fun seen x => if seen.contains x then seen else seen ++ [x]) []

/-- The different names in a condition outside string literals, without members and keywords. -/
def conditionNames (condition : String) : List String :=
  let found := (Text.identifiers (Text.withoutStrings condition.toList)).filter
    fun (before, _) => before != some '.'
  firsts ((found.map fun (_, name) => String.ofList name).filter fun name =>
    !keywords.contains name)

/-- The uses in the condition of a branch. -/
def branchUses (model : Model) (known : List String) (branch : Branch) : List Use :=
  if branch.isCatchAll then []
  else
    let scope := scopeAt model branch.file branch.line branch.scope
    ((conditionNames (branch.condition.getD "")).filter known.contains).map fun name =>
      { name, file := branch.file, line := branch.line, scope, kind := .condition }

/-- All uses of the known names in a model: references, then arguments, then conditions. -/
def allUses (model : Model) (known : List String) : List Use :=
  (model.references.filter fun reference => isLikelyVariable reference.name known).map
      (referenceUse model)
    ++ model.calls.flatMap (callUses model known)
    ++ model.branches.flatMap (branchUses model known)

/-- Whether two uses read the same variable at the same place. -/
def samePlace (a b : Use) : Bool :=
  a.name == b.name && a.file == b.file && a.line == b.line && a.scope == b.scope

/-- The uses without those that read the same variable at the same place as an earlier one. -/
def dedupe (uses : List Use) : List Use :=
  uses.foldl (fun seen use => if seen.any (samePlace use) then seen else seen ++ [use]) []

/-- The uses of the known names in a model, with the repetitions at one place left out if wanted. -/
def uses (model : Model) (known : List String) (dedupeUses : Bool) : List Use :=
  if dedupeUses then dedupe (allUses model known) else allUses model known

end BranchCover.DataFlow
