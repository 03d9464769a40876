import BranchCover.CommandLine.Basic
import BranchCover.Syntax.Outline

/-!
# The program

Reads the project that the command line names into a file tree, runs the command on it, and writes
and prints what comes of it. The concrete tree of a source is read from the outline beside it, whose
name is that of the source with `.outline` behind it.
-/

namespace BranchCover.Main

/-- The text of a place. -/
def placeText (place : List String) : String := "/" ++ "/".intercalate place

/-- A tree with what stands at a place and below it. -/
partial def readInto (tree : FileTree) (place : List String) : IO FileTree := do
  let path := (← IO.currentDir) / placeText place
  if ← path.isDir then
    let mut tree := tree.put place .directory
    for entry in ← path.readDir do
      tree ← readInto tree (place ++ [entry.fileName])
    return tree
  else if ← path.pathExists then
    return tree.put place (.file (← IO.FS.readBinFile path).toList)
  else return tree

/-- A tree with the directories above a place. -/
def withAncestors (tree : FileTree) (place : List String) : FileTree :=
  (List.range place.length).foldl (fun tree n =>
    if n = 0 then tree else tree.put (place.take n) .directory)
    tree

/-- The paths that a command line needs: the project and the option file. -/
def neededPaths (arguments : List String) : List Path :=
  match CommandLine.Request.parse arguments with
  | .ok (.generate project config _ _) => project :: config.toList
  | .ok (.analyze project config) => project :: config.toList
  | _ => []

/-- The trees that outlines beside the sources give. -/
def outlineGrammar (tree : FileTree) : Grammar := fun content =>
  tree.entries.findSome? fun (place, entry) =>
    match entry, tree.entry? (place.dropLast ++ [place.getLast?.getD "" ++ ".outline"]) with
    | .file source, some (.file outline) =>
      if String.ofList (Text.normalizeNewlines (Utf8.decodeLossy source)) = content then
        some (ConcreteTree.ofOutline (Utf8.decodeLossy outline))
      else none
    | _, _ => none

/-- Writes the files of a tree that another does not have. -/
def writeChanges (before after : FileTree) : IO Unit := do
  for (place, entry) in after.entries do
    if before.entry? place != some entry then
      match entry with
      | .directory => IO.FS.createDirAll (placeText place)
      | .file bytes =>
        IO.FS.createDirAll (placeText place.dropLast)
        IO.FS.writeBinFile (placeText place) ⟨bytes.toArray⟩

end BranchCover.Main

/-- The command line program. -/
def main (arguments : List String) : IO UInt32 := do
  let current := (BranchCover.Path.ofString (← IO.currentDir).toString).names
  let mut tree : BranchCover.FileTree := { current }
  for path in BranchCover.Main.neededPaths arguments do
    if let .ok path := tree.resolve path then
      tree ← BranchCover.Main.readInto (BranchCover.Main.withAncestors tree path.names) path.names
  let (outcome, after) :=
    BranchCover.CommandLine.run (BranchCover.Main.outlineGrammar tree) tree arguments
  BranchCover.Main.writeChanges tree after
  IO.print outcome.output
  IO.eprint outcome.errors
  if let some error := outcome.usage then IO.eprintln error.message
  if let some failure := outcome.failure then IO.eprintln failure.message
  return UInt32.ofNat outcome.exitCode
