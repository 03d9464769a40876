import BranchCover.Project.Path
import BranchCover.Suite.Basic

/-!
# Rendered suites

The Kotlin source of a suite, and where it belongs below the output directory.
-/

namespace BranchCover

/-- The source of a suite and its place. -/
structure RenderedSuite where
  package : String
  className : String
  path : Path
  source : String
  deriving DecidableEq, Repr

namespace Suite

/-- A line one level deeper. -/
def indent (line : String) : String := "    " ++ line

/-- The imports of every suite. -/
def frameworkImports : List String :=
  ["org.junit.jupiter.api.Assertions.*", "org.junit.jupiter.api.Test"]

/-- The import of a suite that makes its instance anew for each test. -/
def setupImport : String := "org.junit.jupiter.api.BeforeEach"

/-- The symbols that a suite imports, sorted. -/
def allImports (suite : Suite) : List String :=
  Text.sortedSet (frameworkImports ++ suite.imports
    ++ if suite.setup.any (!·.isObject) then [setupImport] else [])

/-- The lines that make the shared instance. -/
def setupLines (setup : SharedSetup) : List String :=
  if setup.isObject then [indent ("private val testInstance = " ++ setup.className)]
  else
    [indent ("private lateinit var testInstance: " ++ setup.className),
     "",
     indent "@BeforeEach",
     indent "fun setUp() \x7b",
     indent (indent ("testInstance = " ++ setup.className ++ "("
       ++ ", ".intercalate setup.constructorArguments ++ ")")),
     indent "\x7d"]

/-- The line of the call under test. -/
def callLine (invocation : Invocation) : String :=
  let call := invocation.function ++ "(" ++ ", ".intercalate invocation.arguments ++ ")"
  let receiver := invocation.receiver.getD ""
  let call := if receiver = "" then call else receiver ++ "." ++ call
  if invocation.capturesResult then "val result = " ++ call else call

/-- The lines of a test, not indented. -/
def testLines (test : TestCase) : List String :=
  let bindings := test.bindings.filter (!·.isVariadic)
  ["@Test", "fun " ++ test.name ++ "() \x7b"]
    ++ (bindings.map fun binding =>
      indent ("val " ++ binding.name ++ ": " ++ binding.typeName ++ " = " ++ binding.value))
    ++ (if bindings.isEmpty then [] else [""])
    ++ (test.notes.map fun note => indent ("// " ++ note))
    ++ (test.invocation.map fun invocation => indent (callLine invocation)).toList
    ++ (test.assertions.flatMap Assertion.render).map indent
    ++ ["\x7d"]

/-- The lines of a suite. -/
def lines (suite : Suite) : List String :=
  (if suite.package = "" then [] else ["package " ++ suite.package, ""])
    ++ (suite.allImports.map fun symbol => "import " ++ symbol)
    ++ ["", "class " ++ suite.className ++ " \x7b"]
    ++ (match suite.setup with
        | some setup => "" :: setupLines setup
        | none => [])
    ++ (suite.tests.flatMap fun test =>
      "" :: (testLines test).map fun line => if line = "" then "" else indent line)
    ++ ["\x7d", ""]

/-- The place of a suite: one directory for each part of its package. -/
def relativePath (package className : String) : Path :=
  let parts := if package = "" then []
    else (Text.splitAtChars (· == '.') package.toList).map String.ofList
  (parts ++ [className ++ ".kt"]).foldl (fun path part => path.join (Path.ofString part))
    (Path.ofString "")

/-- The source of a suite and its place. -/
def render (suite : Suite) : RenderedSuite where
  package := suite.package
  className := suite.className
  path := relativePath suite.package suite.className
  source := "\n".intercalate suite.lines

end Suite

end BranchCover
