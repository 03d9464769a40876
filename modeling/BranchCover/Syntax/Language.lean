import BranchCover.Project.Path
import BranchCover.Syntax.Conversion
import BranchCover.Text.LetterCase

/-!
# Languages

The languages whose sources are understood, by the endings of their files.

* `Language.forPath?`: the language of a file.
* `Language.parse`: the syntax of a file, from its concrete tree.
-/

namespace BranchCover

/-- A language: its name, and the endings of its files in lower case. -/
structure Language where
  name : String
  extensions : List String
  deriving DecidableEq, Repr

namespace Language

/-- The one language that is understood. -/
def kotlin : Language := { name := "Kotlin", extensions := [".kt", ".kts"] }

/-- The first language whose files have the ending of a path, in lower case. -/
def forPath? (languages : List Language) (path : Path) : Option Language :=
  let suffix := String.ofList (Text.lowerCase path.suffix.toList)
  languages.find? (·.extensions.contains suffix)

/-- Why a file has no syntax. -/
inductive ParseError where
  /-- No language has files with that ending. -/
  | unknownSuffix (suffix : String)
  /-- The grammar gave no tree. -/
  | noTree
  deriving DecidableEq, Repr

/-- The wording of an error. -/
def ParseError.message : ParseError → String
  | unknownSuffix suffix => "No parser for " ++ suffix ++ " files"
  | noTree => "Parse error: no tree"

/-- The syntax of a source of whatever ending. -/
def parseSource (path : Path) (content : String) (tree : Option (List ConcreteTree)) :
    Except ParseError ParsedFile :=
  match tree with
  | some roots => .ok (Conversion.parsedFile path.text content roots)
  | none => .error .noTree

/-- The syntax of a file whose ending tells its language. -/
def parse (languages : List Language) (path : Path) (content : String)
    (tree : Option (List ConcreteTree)) : Except ParseError ParsedFile :=
  if (forPath? languages path).isSome then parseSource path content tree
  else .error (.unknownSuffix path.suffix)

end Language

end BranchCover
