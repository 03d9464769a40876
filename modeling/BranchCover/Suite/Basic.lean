import BranchCover.DataFlow.Use
import BranchCover.Synthesis.Target

/-!
# Suites

Tests are grouped into suites by their package and the class they test, in the order in which these
first appear. Within a suite no two tests have the same name.

* `suiteKey`: where a test belongs.
* `renameAll`: tests with different names.
* `Suite.group`: the suites of a list of tests.
-/

namespace BranchCover

/-- One generated test class. -/
structure Suite where
  package : String
  className : String
  tests : List TestCase := []
  imports : List String := []
  setup : Option SharedSetup := none
  deriving DecidableEq, Repr

namespace Suite

/-- The class of the suite that a test belongs to: named for the tested class, or for the
function. -/
def classNameFor (test : TestCase) : String :=
  match test.setup with
  | some setup => String.ofList (setup.className.toList.filter (· != '.')) ++ "Test"
  | none => String.ofList (Text.capitalize test.targetFunction.toList) ++ "Test"

/-- What stands before the last point of a symbol. -/
def namespaceOf (symbol : String) : String :=
  match Text.splitLast? '.' symbol.toList with
  | some (before, _) => String.ofList before
  | none => ""

/-- The package of the suite that a test belongs to: its own, or else that of the first symbol it
needs which has one, apart from the mock, or else the default. -/
def packageFor (test : TestCase) (defaultPackage : String) : String :=
  if test.package ≠ "" then test.package
  else match test.requiredSymbols.find? fun symbol =>
      symbol != Synthesis.mockSymbol && symbol.toList.contains '.' with
    | some symbol => namespaceOf symbol
    | none => defaultPackage

/-- The package and the class of the suite that a test belongs to. -/
def suiteKey (defaultPackage : String) (test : TestCase) : String × String :=
  (packageFor test defaultPackage, classNameFor test)

/-- The names that a test may get: its own, and then with the numbers from two on, so many. -/
def nameCandidates (name : String) (count : Nat) : List String :=
  name :: (List.range count).map fun i => name ++ toString (i + 2)

/-- The first name for a test that is not used; among one more candidates than there are used names
there is one. -/
def freshName (used : List String) (name : String) : String :=
  ((nameCandidates name used.length).find? fun candidate => !used.contains candidate).getD name

/-- Tests with names that differ from the used ones and from each other. -/
def renameAll (used : List String) : List TestCase → List TestCase
  | [] => []
  | test :: rest =>
    let name := freshName used test.name
    { test with name } :: renameAll (name :: used) rest

/-- The suite of the tests that belong to a package and a class. Symbols of its own package are not
imported. -/
def ofTests (key : String × String) (tests : List TestCase) : Suite where
  package := key.1
  className := key.2
  tests := renameAll [] tests
  imports := Text.sortedSet
    ((tests.flatMap (·.requiredSymbols)).filter fun symbol => namespaceOf symbol != key.1)
  setup := tests.findSome? (·.setup)

/-- The suites of a list of tests, in the order in which they first appear. -/
def group (tests : List TestCase) (defaultPackage : String) : List Suite :=
  (DataFlow.firsts (tests.map (suiteKey defaultPackage))).map fun key =>
    ofTests key (tests.filter fun test => suiteKey defaultPackage test == key)

end Suite

end BranchCover
