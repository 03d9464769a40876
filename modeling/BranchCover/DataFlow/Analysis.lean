import BranchCover.DataFlow.Use

/-!
# The data-flow analysis

Each use is paired with the nearest definition before it whose scope encloses it; definitions in
other files count last. What is left over is anomalous.

* `bestDefinition?`: the definition that reaches a use.
* `analyze`: definitions, uses, pairs, anomalies and the call graph of a model.
* `attach`: a model with its analysis.
-/

namespace BranchCover.DataFlow

/-! ### Pairs -/

/-- How near a definition is to a use, if it can reach it: its line in the same file, which must be
before that of the use, and `-1` in another file. -/
def rank? (definition : Definition) (use : Use) : Option Int :=
  if definition.name = use.name ∧ Scope.encloses definition.scope use.scope then
    if definition.file = use.file then
      if definition.line < use.line then some definition.line else none
    else some (-1)
  else none

/-- The better of the best definition so far and the next one, which has to be nearer. -/
def better (use : Use) (best : Option (Int × Nat × Definition)) (next : Definition × Nat) :
    Option (Int × Nat × Definition) :=
  match rank? next.1 use with
  | none => best
  | some rank =>
    match best with
    | none => some (rank, next.2, next.1)
    | some (bestRank, _) => if bestRank < rank then some (rank, next.2, next.1) else best

/-- The first of the nearest definitions that reach a use, with its place. -/
def bestDefinition? (definitions : List Definition) (use : Use) : Option (Nat × Definition) :=
  (definitions.zipIdx.foldl (better use) none).map (·.2)

/-- A use with the definition that reaches it and the place of that definition, or alone. -/
inductive Pairing where
  | paired (index : Nat) (pair : DefUsePair)
  | undefined (use : Use)
  deriving DecidableEq, Repr

/-- The pairing of a use. -/
def pairingOf (definitions : List Definition) (use : Use) : Pairing :=
  match bestDefinition? definitions use with
  | some (index, definition) => .paired index { definition, use }
  | none => .undefined use

/-- The pairs among pairings, with the places of their definitions. -/
def pairsOf (pairings : List Pairing) : List (Nat × DefUsePair) :=
  pairings.filterMap fun | .paired index pair => some (index, pair) | .undefined _ => none

/-- The uses among pairings that no definition reaches. -/
def undefinedOf (pairings : List Pairing) : List Use :=
  pairings.filterMap fun | .undefined use => some use | .paired _ _ => none

/-! ### Anomalies -/

/-- An anomaly of a use. -/
def useAnomaly (kind : AnomalyKind) (use : Use) (description : String) : Anomaly where
  kind
  name := use.name
  file := use.file
  line := use.line
  description := "Variable '" ++ use.name ++ "' " ++ description

/-- The uses that no definition reaches. -/
def undefinedUses (undefined : List Use) : List Anomaly :=
  undefined.map fun use => useAnomaly .undefinedUse use "is used before definition"

/-- The definitions that reach no use. -/
def unusedDefinitions (definitions : List Definition) (pairs : List (Nat × DefUsePair)) :
    List Anomaly :=
  (definitions.zipIdx.filter fun (_, index) => !pairs.any (·.1 == index)).map
    fun (definition, _) =>
      { kind := .unusedDefinition, name := definition.name, file := definition.file,
        line := definition.line,
        description := "Variable '" ++ definition.name ++ "' is defined but never used" }

/-- The uses that are paired more than once. -/
def redundantDefinitions (pairs : List (Nat × DefUsePair)) : List Anomaly :=
  let paired := pairs.map (·.2.use)
  ((firsts paired).filter fun use => 1 < paired.count use).map fun use =>
    useAnomaly .redundantDefinition use
      ("has " ++ toString (paired.count use) ++ " definitions before this use")

/-- Whether a pair reads a variable that is declared without a value, on another line. -/
def isUninitialized (decls : List Variable) (pair : DefUsePair) : Bool :=
  pair.definition.kind == .declaration && pair.definition.line != pair.use.line &&
    match pair.definition.variableIndex.bind fun index => decls[index]? with
    | some declared => declared.initializer.isNone && !declared.isParameter
    | none => false

/-- The uses of variables that may have no value yet. -/
def uninitializedUses (decls : List Variable) (pairs : List (Nat × DefUsePair)) :
    List Anomaly :=
  (pairs.filter fun (_, pair) => isUninitialized decls pair).map fun (_, pair) =>
    useAnomaly .uninitializedUse pair.use "might be used uninitialized"

/-- The analysis of a model, with repeated uses at one place left out if wanted. -/
def analyze (model : Model) (dedupeUses : Bool) : Result :=
  let definitions := definitions model
  let uses := uses model (definitions.map (·.name)) dedupeUses
  let pairings := uses.map (pairingOf definitions)
  let pairs := pairsOf pairings
  { definitions
    uses
    pairs := pairs.map (·.2)
    anomalies :=
      undefinedUses (undefinedOf pairings) ++ unusedDefinitions definitions pairs
        ++ redundantDefinitions pairs ++ uninitializedUses model.variableDecls pairs
    callGraph := CallGraph.ofCalls model.calls }

/-- A model with its analysis. -/
def attach (model : Model) (dedupeUses : Bool) : Model :=
  { model with dataflow := some (analyze model dedupeUses) }

end BranchCover.DataFlow
