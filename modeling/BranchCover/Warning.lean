/-!
# Warnings

Problems that do not stop the analysis are recorded, with the place they were met at.
-/

namespace BranchCover

/-- The kinds of problems that are recorded. -/
inductive WarningKind where
  | parseError
  | analysisInconsistency
  | coverageSearchExhausted
  | uniquenessRetryExhausted
  deriving DecidableEq, Repr

/-- The name of a kind of problem. -/
def WarningKind.text : WarningKind → String
  | parseError => "parse_error"
  | analysisInconsistency => "analysis_inconsistency"
  | coverageSearchExhausted => "coverage_search_exhausted"
  | uniquenessRetryExhausted => "uniqueness_retry_exhausted"

/-- A recorded problem. -/
structure Warning where
  kind : WarningKind
  message : String
  file : Option String := none
  line : Option Int := none
  deriving DecidableEq, Repr

/-- The text of a warning: its kind, its message and, as far as they are known, the file and the
line, which counts from one. -/
def Warning.text (warning : Warning) : String :=
  let head := warning.kind.text ++ ": " ++ warning.message
  let file := warning.file.getD ""
  let line := warning.line.getD 0
  if file = "" then head
  else if line = 0 then head ++ " (" ++ file ++ ")"
  else head ++ " (" ++ file ++ ":" ++ toString line ++ ")"

end BranchCover
