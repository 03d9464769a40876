import BranchCover.Oracle.Assertion

/-!
# Test cases

One generated test: the values bound to the parameters of a function, the call, and the checks on
its result.
-/

namespace BranchCover

/-- What a test exercises. -/
inductive TestKind where
  | basic
  | branch
  | whenEntry
  | whenElse
  deriving DecidableEq, Repr

/-- The values bound to one parameter: one, or any number for a variadic one. -/
structure ParameterBinding where
  name : String
  typeName : String
  values : List String
  isVariadic : Bool := false
  deriving DecidableEq, Repr

/-- The values of a binding with commas between them. -/
def ParameterBinding.value (binding : ParameterBinding) : String := ", ".intercalate binding.values

/-- The call under test. Its arguments are expressions: names of bound parameters, or the values of
a variadic one. -/
structure Invocation where
  function : String
  arguments : List String := []
  receiver : Option String := none
  capturesResult : Bool := true
  deriving DecidableEq, Repr

/-- How the instance that all tests of a class share is made. -/
structure SharedSetup where
  className : String
  qualifiedName : String
  constructorArguments : List String := []
  isObject : Bool := false
  deriving DecidableEq, Repr

/-- One generated test. -/
structure TestCase where
  name : String
  kind : TestKind
  targetDeclaration : String
  targetFunction : String
  file : String
  package : String := ""
  bindings : List ParameterBinding := []
  invocation : Option Invocation := none
  assertions : List Assertion := []
  setup : Option SharedSetup := none
  requiredSymbols : List String := []
  notes : List String := []
  deriving DecidableEq, Repr

/-- Whether a test exercises a branch. -/
def TestCase.isBranchTest (test : TestCase) : Bool := test.kind != .basic

/-- The number of tests that only call their function. -/
def TestCase.basicCount (tests : List TestCase) : Nat := tests.countP (!·.isBranchTest)

/-- The number of tests that exercise a branch. -/
def TestCase.branchCount (tests : List TestCase) : Nat := tests.countP (·.isBranchTest)

end BranchCover
