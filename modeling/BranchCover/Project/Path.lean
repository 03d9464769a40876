import BranchCover.Text.Blank
import BranchCover.Text.Scan

/-!
# Paths

A path has a root, which is empty for a relative one, and names. Empty names and `.` are left out;
`..` is kept.

* `Path.ofString`, `Path.text`: reading and writing.
* `Path.join`: a path below another.
* `Path.suffix`: the ending of the last name from its last point on.
-/

namespace BranchCover

/-- A path: its root and its names. -/
structure Path where
  /-- The slashes in front of an absolute path. -/
  root : String
  names : List String
  deriving DecidableEq, Repr, Inhabited

namespace Path

/-- The path that a text writes. Two slashes in front are a root of their own. -/
def ofString (text : String) : Path where
  root :=
    match text.toList with
    | '/' :: '/' :: '/' :: _ => "/"
    | '/' :: '/' :: _ => "//"
    | '/' :: _ => "/"
    | _ => ""
  names :=
    ((Text.splitAtChars (· == '/') text.toList).map String.ofList).filter
      fun name => name != "" && name != "."

/-- The text of a path; that of the path without names is a point. -/
def text (path : Path) : String :=
  if path.root = "" ∧ path.names = [] then "." else path.root ++ "/".intercalate path.names

/-- Whether a path starts at a root. -/
def isAbsolute (path : Path) : Bool := path.root != ""

/-- A path taken below another; an absolute one stands for itself. -/
def join (path below : Path) : Path :=
  if below.isAbsolute then below else { path with names := path.names ++ below.names }

/-- The last name of a path. -/
def name (path : Path) : String := path.names.getLast?.getD ""

/-- The path without its last name. -/
def parent (path : Path) : Path := { path with names := path.names.dropLast }

/-- The ending of a name from its last point on, if text stands before and behind that point. -/
def suffixOf (name : List Char) : List Char :=
  match Text.splitLast? '.' name with
  | some (before, after) => if before.isEmpty || after.isEmpty then [] else '.' :: after
  | none => []

/-- The ending of the last name of a path. -/
def suffix (path : Path) : String := String.ofList (suffixOf path.name.toList)

/-- The names behind one that go a level up are resolved with it. -/
def resolveNames (done : List String) : List String → List String
  | [] => done.reverse
  | ".." :: rest => resolveNames done.tail rest
  | name :: rest => resolveNames (name :: done) rest

/-- The path from the root without `..`; the root is one slash. -/
def resolve (path : Path) : Path := { root := "/", names := resolveNames [] path.names }

/-- Whether a null character stands in a path. -/
def hasNull (path : Path) : Bool := path.names.any fun name => name.toList.contains '\x00'

end Path

end BranchCover
