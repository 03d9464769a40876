import BranchCover.Project.Path
import BranchCover.Text.Lines
import BranchCover.Text.Quoted
import BranchCover.Text.Utf8

/-!
# File trees

The files that a run reads and writes are a value: the files and directories by their places, a
place being the names on the way from the root to it. A path leads to a place by way of directories,
and `..` leads back to the directory above. No entry stands for another path, so there are no
symbolic links and no path leads in a circle.

* `FileTree.locate`, `FileTree.find`: the place that a path leads to, and what stands there.
* `FileTree.resolve`: a path from the root to the same place.
* `FileTree.read`, `FileTree.readText`: what a file holds.
* `FileM.write`, `FileM.makeDirectories`: changes of a tree that may fail.
-/

namespace BranchCover

/-- What stands at a place. -/
inductive FileEntry where
  | file (bytes : List UInt8)
  | directory
  deriving DecidableEq, Repr

/-- Files and directories by their places. The root itself is always a directory. -/
structure FileTree where
  entries : List (List String × FileEntry) := []
  /-- The place that relative paths start from. -/
  current : List String := []
  deriving DecidableEq, Repr

/-- Why a path cannot be used. -/
inductive FileFault where
  | missing
  | alreadyThere
  | notDirectory
  | isDirectory
  /-- The path or one of its names is too long. -/
  | nameTooLong
  /-- The path has a null character, so it is the path of nothing. -/
  | nullCharacter
  deriving DecidableEq, Repr

/-- The wording of a fault, with its number if it has one. -/
def FileFault.text : FileFault → String
  | missing => "[Errno 2] No such file or directory"
  | alreadyThere => "[Errno 17] File exists"
  | notDirectory => "[Errno 20] Not a directory"
  | isDirectory => "[Errno 21] Is a directory"
  | nameTooLong => "[Errno 36] File name too long"
  | nullCharacter => "embedded null byte"

/-- A path and why it cannot be used. -/
structure FileError where
  fault : FileFault
  path : Path
  deriving DecidableEq, Repr

/-- The wording of an error, with the path unless it is the path of nothing. -/
def FileError.message (error : FileError) : String :=
  if error.fault = .nullCharacter then error.fault.text
  else error.fault.text ++ ": " ++ Text.shown error.path.text

/-- Why a text cannot be read. -/
inductive ReadError where
  | file (error : FileError)
  | encoding (error : Utf8.DecodeError)
  deriving DecidableEq, Repr

/-- The wording of an error. -/
def ReadError.message : ReadError → String
  | file error => error.message
  | encoding error => error.message

namespace FileTree

/-! ### Looking -/

/-- What stands at a place. -/
def entry? (tree : FileTree) (place : List String) : Option FileEntry :=
  if place.isEmpty then some .directory else tree.entries.lookup place

/-- The most bytes of a name. -/
def maxNameBytes : Nat := 255

/-- The most bytes of a whole path. -/
def maxPathBytes : Nat := 4095

/-- The place that names lead to from another. All but the last of them pass through directories;
what stands at the last is left open. -/
def follow (tree : FileTree) (place : List String) : List String → Except FileFault (List String)
  | [] => .ok place
  | name :: rest =>
    match tree.entry? place with
    | some .directory =>
      if maxNameBytes < name.utf8ByteSize then .error .nameTooLong
      else follow tree (if name = ".." then place.dropLast else place ++ [name]) rest
    | some (.file _) => .error .notDirectory
    | none => .error .missing

/-- The place that a path starts from. -/
def start (tree : FileTree) (path : Path) : List String :=
  if path.isAbsolute then [] else tree.current

/-- The place that a path leads to. -/
def locate (tree : FileTree) (path : Path) : Except FileFault (List String) :=
  if path.hasNull then .error .nullCharacter
  else if maxPathBytes < path.text.utf8ByteSize then .error .nameTooLong
  else tree.follow (tree.start path) path.names

/-- A path as it is from the root on. -/
def absolute (tree : FileTree) (path : Path) : Path :=
  { path with names := tree.start path ++ path.names }

/-- A path from the root without `..`, unless it is the path of nothing. -/
def resolve (tree : FileTree) (path : Path) : Except FileError Path :=
  if (tree.absolute path).hasNull then .error { fault := .nullCharacter, path }
  else .ok (tree.absolute path).resolve

/-- What a path leads to, if anything. A path that is too long cannot even be looked up. -/
def find (tree : FileTree) (path : Path) : Except FileError (Option FileEntry) :=
  match tree.locate path with
  | .ok place => .ok (tree.entry? place)
  | .error .nameTooLong => .error { fault := .nameTooLong, path }
  | .error _ => .ok none

/-- Whether a path leads to a directory. -/
def isDirectory (tree : FileTree) (path : Path) : Bool :=
  match tree.locate path with
  | .ok place => tree.entry? place == some .directory
  | .error _ => false

/-- The bytes of the file that a path leads to. -/
def read (tree : FileTree) (path : Path) : Except FileError (List UInt8) :=
  match tree.locate path with
  | .error fault => .error { fault, path }
  | .ok place =>
    match tree.entry? place with
    | some (.file bytes) => .ok bytes
    | some .directory => .error { fault := .isDirectory, path }
    | none => .error { fault := .missing, path }

/-- The text of the file that a path leads to, with line feeds for all line breaks. -/
def readText (tree : FileTree) (path : Path) : Except ReadError (List Char) :=
  match tree.read path with
  | .error error => .error (.file error)
  | .ok bytes =>
    match Utf8.decode bytes with
    | .ok text => .ok (Text.normalizeNewlines text)
    | .error error => .error (.encoding error)

/-- The names behind some other names. -/
def namesBehind? : List String → List String → Option (List String)
  | [], place => some place
  | _ :: _, [] => none
  | name :: names, first :: place => if name = first then namesBehind? names place else none

/-- The files below a directory, by the names that lead to them from there. -/
def filesBelow (tree : FileTree) (path : Path) : List (List String × List UInt8) :=
  match tree.locate path with
  | .error _ => []
  | .ok top =>
    tree.entries.filterMap fun (place, entry) =>
      match entry, namesBehind? top place with
      | .file bytes, some (name :: names) => some (name :: names, bytes)
      | _, _ => none

/-! ### Changing -/

/-- Entries with one more, in place of what stands there. -/
def putEntry (place : List String) (entry : FileEntry) :
    List (List String × FileEntry) → List (List String × FileEntry)
  | [] => [(place, entry)]
  | first :: rest =>
    if first.1 = place then (place, entry) :: rest else first :: putEntry place entry rest

/-- A tree with an entry at a place, in place of what stands there. -/
def put (tree : FileTree) (place : List String) (entry : FileEntry) : FileTree :=
  { tree with entries := putEntry place entry tree.entries }

end FileTree

/-- Work on a tree that may fail; what was done before it fails stays done. -/
abbrev FileM := ExceptT FileError (StateM FileTree)

namespace FileM

/-- Makes a directory in one that is there. -/
def makeDirectory (path : Path) : FileM Unit := do
  let tree ← get
  match tree.locate path with
  | .error fault => throw { fault, path }
  | .ok place =>
    if (tree.entry? place).isSome then throw { fault := .alreadyThere, path }
    else set (tree.put place .directory)

/-- Makes a directory in one that is there, unless it is there itself. -/
def ensureDirectory (path : Path) : FileM Unit := do
  if (← get).isDirectory path then pure () else makeDirectory path

/-- Makes a directory, given by its names from the last to the first, and those above it that are
missing. -/
def makeDirectoriesTo (root : String) : List String → FileM Unit
  | [] => ensureDirectory { root, names := [] }
  | name :: above => do
    let path : Path := { root, names := (name :: above).reverse }
    if (← get).locate path matches .error .missing then
      makeDirectoriesTo root above
    ensureDirectory path

/-- Makes a directory and those above it, as far as they are missing. -/
def makeDirectories (path : Path) : FileM Unit := makeDirectoriesTo path.root path.names.reverse

/-- Writes a file into a directory that is there. -/
def write (path : Path) (bytes : List UInt8) : FileM Unit := do
  let tree ← get
  match tree.locate path with
  | .error fault => throw { fault, path }
  | .ok place =>
    if tree.entry? place = some .directory then throw { fault := .isDirectory, path }
    else set (tree.put place (.file bytes))

end FileM

end BranchCover
