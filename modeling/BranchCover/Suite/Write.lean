import BranchCover.Project.FileTree
import BranchCover.Suite.Render

/-!
# Written suites

The source of a suite is written below the output directory, and the directories on the way are
made.
-/

namespace BranchCover

/-- A suite that could not be written: where it belongs, and why. -/
structure EmissionError where
  path : Path
  cause : FileError
  deriving DecidableEq, Repr

/-- Whether the path is the path of nothing, so that no writing was tried. -/
def EmissionError.isNoPath (error : EmissionError) : Bool := error.cause.fault == .nullCharacter

/-- The wording of an error. -/
def EmissionError.message (error : EmissionError) : String :=
  if error.isNoPath then error.cause.message
  else "Failed to write " ++ error.path.text ++ ": " ++ error.cause.message

/-- Writing of suites that may fail; what was written before stays. -/
abbrev EmissionM := ExceptT EmissionError (StateM FileTree)

namespace RenderedSuite

/-- Writes a suite below a directory and gives its path. -/
def write (output : Path) (suite : RenderedSuite) : EmissionM Path := do
  let path := output.join suite.path
  let work : FileM Unit := do
    FileM.makeDirectories path.parent
    FileM.write path (Utf8.encode suite.source.toList)
  match ← (work.run : StateM FileTree _) with
  | .ok () => return path
  | .error cause => throw { path, cause }

/-- Writes suites below a directory, up to the first that fails, and gives their paths. -/
def writeAll (output : Path) : List RenderedSuite → EmissionM (List Path)
  | [] => return []
  | suite :: rest => do
    let path ← suite.write output
    return path :: (← writeAll output rest)

end RenderedSuite

end BranchCover
