import BranchCover.Project.FileTree
import BranchCover.Text.Glob
import BranchCover.Text.Sorted

/-!
# Source files of a project

The files to analyze are those below the project that have the right ending and size, are text, and
match none of the patterns for what is left out. A pattern that ends in a slash matches directories
by name; one with a slash inside matches a path or the beginning of one; any other matches a name on
the path.

* `excludes`, `isExcluded`: the paths that patterns leave out.
* `FileFilter.load`: the filter of a project, with the patterns of its ignore file.
* `FileFilter.select`: the files that a filter lets through.
-/

namespace BranchCover

/-- Whether a pattern leaves out a path. -/
def excludes (pattern path : List Char) : Bool :=
  let parts := Text.splitAtChars (· == '/') path
  if Text.endsWith pattern ['/'] then
    parts.dropLast.any fun part => globMatch part (Text.dropEndWhile (· == '/') pattern)
  else if pattern.contains '/' then
    Text.startsWith path (pattern ++ ['/']) || path == pattern
      || globMatch path pattern || globMatch path (pattern ++ ['/', '*'])
  else parts.any fun part => globMatch part pattern

/-- Whether one of some patterns leaves out a path. -/
def isExcluded (patterns : List String) (path : String) : Bool :=
  patterns.any fun pattern => excludes pattern.toList path.toList

/-- Which files are analyzed. -/
structure FileFilter where
  patterns : List String
  maxBytes : Int
  extensions : List String
  deriving DecidableEq, Repr

namespace FileFilter

/-- Directories of tests. -/
def testDirectories : List String := ["test", "tests", "androidTest"]

/-- What is always left out: hidden files, build outputs, tests and build scripts. -/
def standardPatterns : List String :=
  [".*", "build", "bin", "out", "target", "node_modules"] ++ testDirectories ++ ["*.gradle.kts"]

/-- The endings of source files. -/
def sourceExtensions : List String := [".kt"]

/-- The largest size of a file, if no other is given. -/
def standardMaxKilobytes : Int := 500

/-- How a filter is made. -/
structure Options where
  /-- The largest size of a file; zero is as good as none. -/
  maxKilobytes : Option Int := none
  extraPatterns : List String := []
  /-- Where more patterns are listed. -/
  ignorePath : Option Path := none
  /-- The endings of the files; none at all is as good as no list. -/
  extensions : List String := []
  deriving DecidableEq, Repr

/-- The patterns that an ignore file lists: its lines, apart from empty ones and comments. -/
def listedPatterns (text : List Char) : List String :=
  (((Text.splitLines text).map Text.trim).filter fun line =>
    !line.isEmpty && line.head? != some '#').map String.ofList

/-- The largest size in kilobytes that options ask for. -/
def Options.kilobytes (options : Options) : Int :=
  match options.maxKilobytes with
  | some n => if n = 0 then standardMaxKilobytes else n
  | none => standardMaxKilobytes

/-- A filter with patterns from an ignore file. -/
def make (options : Options) (listed : List String) : FileFilter where
  patterns := standardPatterns ++ options.extraPatterns ++ listed
  maxBytes := options.kilobytes * 1024
  extensions := if options.extensions.isEmpty then sourceExtensions else options.extensions

/-- The filter of a project. -/
def load (tree : FileTree) (project : Path) (options : Options) : Except ReadError FileFilter :=
  let ignorePath := options.ignorePath.getD (project.join (Path.ofString ".stgeignore"))
  match tree.find ignorePath with
  | .error error => .error (.file error)
  | .ok none => .ok (make options [])
  | .ok (some _) => (tree.readText ignorePath).map fun text => make options (listedPatterns text)

/-- Whether bytes are no text, judged by their beginning. -/
def isBinary (bytes : List UInt8) : Bool := (bytes.take 1024).contains 0

/-- Whether a filter lets a file through, given the path from the project to it. -/
def admits (filter : FileFilter) (names : List String) (bytes : List UInt8) : Bool :=
  let path : Path := { root := "", names }
  filter.extensions.contains path.suffix
    && !isExcluded filter.patterns path.text
    && decide ((bytes.length : Int) ≤ filter.maxBytes)
    && !isBinary bytes

/-- The files of a project that a filter lets through, sorted. -/
def select (filter : FileFilter) (tree : FileTree) (project : Path) : List String :=
  Text.sortedSet <| ((tree.filesBelow project).filter fun (names, bytes) =>
    filter.admits names bytes).map fun (names, _) => "/".intercalate names

end FileFilter

end BranchCover
