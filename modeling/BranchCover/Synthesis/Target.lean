import BranchCover.TestCase
import BranchCover.Text.LetterCase
import BranchCover.Text.Sorted
import BranchCover.Value.Pool

/-!
# Functions under test

What all tests of one function share: the class it belongs to, how an instance is made, the values
of variadic parameters, and the symbols to import.

* `isTestable`: whether tests are made for a function.
* `Target.ofFunction`: what the tests of a function share.
* `Target.testCase`: one test.
-/

namespace BranchCover.Synthesis

/-- The name of the shared instance. -/
def receiver : String := "testInstance"

/-- The symbol that makes mocks. -/
def mockSymbol : String := "org.mockito.Mockito.mock"

/-- Whether tests are made for a function: it is not private and has a name, its class can be
instantiated, and it is not local to another function. -/
def isTestable (function : FunctionDecl) (owner : Option ClassDecl) : Bool :=
  !function.isPrivate && function.name != "<anonymous>" &&
    match function.containingClass with
    | some _ => owner.any fun decl => !decl.isAbstract && !decl.isEnum
    | none => !(Scope.path function.scope).toList.contains '.'

/-- What the tests of a function share. -/
structure Target where
  function : FunctionDecl
  owner : Option ClassDecl
  setup : Option SharedSetup
  /-- The values of the variadic parameters, by their places. -/
  variadic : List (Nat × List String)
  baseSymbols : List String
  deriving DecidableEq, Repr

namespace Target

/-- The parameters that are not variadic. -/
def fixedParameters (parameters : List Parameter) : List Parameter :=
  parameters.filter (!·.isVariadic)

/-- How an instance of a class is made: from neutral values, and an object from nothing. -/
def setupOf (owner : ClassDecl) : SharedSetup where
  className := owner.localName
  qualifiedName := owner.qualifiedName
  constructorArguments :=
    if owner.isObject then []
    else (fixedParameters owner.constructorParameters).map fun parameter =>
      Value.neutral parameter.typeName
  isObject := owner.isObject

/-- The imports of a file that bring in the base name of a type. -/
def importsOf (imports : List String) (type : String) : List String :=
  imports.filter fun symbol =>
    Text.endsWith symbol.toList ('.' :: (TypeText.base type).toList)

/-- The symbols that tests of a function need: itself or its class, unless in no package, and the
imports for the types of its parameters. -/
def symbolsOf (model : Model) (function : FunctionDecl) (owner : Option ClassDecl) : List String :=
  let own :=
    match owner with
    | some decl => if decl.package = "" then [] else [decl.qualifiedName]
    | none =>
      if function.package = "" then [] else [function.package ++ "." ++ function.name]
  let types := function.parameters.map (·.typeName)
    ++ owner.elim [] fun decl => decl.constructorParameters.map (·.typeName)
  let imports := ((model.sourceFile? function.file).map (·.imports)).getD []
  Text.sortedSet (own ++ types.flatMap (importsOf imports))

/-- The values of the variadic parameters from a place on. -/
def drawVariadic (sites : CallSites) (function : FunctionDecl) (place : Nat) :
    List Parameter → Random (List (Nat × List String))
  | [] => pure []
  | parameter :: rest => do
    if parameter.isVariadic then
      let values ← (Value.variadic sites function place).getD (pure [])
      let others ← drawVariadic sites function (place + 1) rest
      return (place, values) :: others
    else drawVariadic sites function (place + 1) rest

/-- What the tests of a function share. -/
def ofFunction (model : Model) (sites : CallSites) (function : FunctionDecl)
    (owner : Option ClassDecl) : Random Target := do
  let variadic ← drawVariadic sites function 0 function.parameters
  return { function, owner, setup := owner.map setupOf, variadic,
           baseSymbols := symbolsOf model function owner }

/-- The neutral values of the parameters that are not variadic. -/
def neutralValues (target : Target) : Bindings :=
  Bindings.ofList ((fixedParameters target.function.parameters).map fun parameter =>
    (parameter.name, Value.neutral parameter.typeName))

/-- Values from the pools for some parameters. -/
def drawValues : List Parameter → Random (List (String × String))
  | [] => pure []
  | parameter :: rest => do
    let value ← Value.pool parameter.typeName 0
    let others ← drawValues rest
    return (parameter.name, value) :: others

/-- The values of the variadic parameter at a place. -/
def variadicValues (target : Target) (place : Nat) : List String :=
  (target.variadic.lookup place).getD []

/-- The bindings of the parameters from a place on. -/
def bindingsFrom (target : Target) (values : Bindings) (place : Nat) :
    List Parameter → List ParameterBinding
  | [] => []
  | parameter :: rest =>
    { name := parameter.name, typeName := parameter.typeName,
      values := if parameter.isVariadic then target.variadicValues place
        else [(values.get? parameter.name).getD ""],
      isVariadic := parameter.isVariadic } :: bindingsFrom target values (place + 1) rest

/-- The arguments for the parameters from a place on: a variadic one gets its values, and behind one
the others are named. -/
def argumentsFrom (target : Target) (afterVariadic : Bool) (place : Nat) :
    List Parameter → List String
  | [] => []
  | parameter :: rest =>
    if parameter.isVariadic then
      target.variadicValues place ++ argumentsFrom target true (place + 1) rest
    else
      (if afterVariadic then parameter.name ++ " = " ++ parameter.name else parameter.name) ::
        argumentsFrom target afterVariadic (place + 1) rest

/-- Whether a value is made with a mock. -/
def usesMock (value : String) : Bool := Text.contains Value.mock.toList value.toList

/-- The declaration that a test is about: the class of a method, or the function. -/
def declarationName (target : Target) : String :=
  match target.owner with
  | some decl => decl.qualifiedName
  | none =>
    if target.function.package = "" then target.function.name
    else target.function.package ++ "." ++ target.function.name

/-- One test of a function with the given values. -/
def testCase (target : Target) (name : String) (kind : TestKind) (values : Bindings)
    (assertions : List Assertion) (notes : List String) : TestCase :=
  let function := target.function
  let bindings := bindingsFrom target values 0 function.parameters
  let setupArguments := target.setup.elim [] (·.constructorArguments)
  let needsMock := bindings.any (fun binding => binding.values.any usesMock)
    || setupArguments.any usesMock
  { name
    kind
    targetDeclaration := target.declarationName
    targetFunction := function.name
    file := function.file
    package := function.package
    bindings
    invocation := some
      { function := function.name
        arguments := argumentsFrom target false 0 function.parameters
        receiver := if target.owner.isSome then some receiver else none
        capturesResult := TypeText.family function.returnType != .void }
    assertions
    setup := target.setup
    requiredSymbols := Text.sortedSet
      (target.baseSymbols ++ if needsMock then [mockSymbol] else [])
    notes }

/-- A name that starts with that of the function: `test`, the function, and what is added. -/
def testName (target : Target) (ending : String) : String :=
  "test" ++ String.ofList (Text.capitalize target.function.name.toList) ++ ending

/-- The test that only calls the function. -/
def basicTest (target : Target) : Random TestCase := do
  let values ← drawValues (fixedParameters target.function.parameters)
  return target.testCase (target.testName "") .basic (Bindings.ofList values)
    (Oracle.forBasic target.function) ["Basic invocation of " ++ target.function.name]

end Target

end BranchCover.Synthesis
