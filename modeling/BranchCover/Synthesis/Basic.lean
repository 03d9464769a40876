import BranchCover.Synthesis.Branches

/-!
# The synthesis of tests

Each testable function gets a test that only calls it, and the tests of its branches. The same model
and seed always give the same tests.
-/

namespace BranchCover.Synthesis

/-- The tests of a branch of a function. -/
def branchTests (settings : SynthesisSettings) (model : Model) (target : Target) (branch : Branch) :
    SynthesisM SynthesisResult :=
  match branch.kind with
  | .ifBranch => ifTests settings target branch
  | .when => whenTests settings model target branch
  | .whenEntry => pure {}

/-- The tests of several branches, one branch after another. -/
def allBranchTests (settings : SynthesisSettings) (model : Model) (target : Target) :
    List Branch → SynthesisM SynthesisResult
  | [] => pure {}
  | branch :: rest => do
    let first ← branchTests settings model target branch
    let others ← allBranchTests settings model target rest
    return first.append others

/-- The class that a method belongs to. -/
def ownerOf (model : Model) (function : FunctionDecl) : Option ClassDecl :=
  function.containingClass.bind model.classNamed?

/-- The tests of a function. -/
def functionTests (settings : SynthesisSettings) (model : Model) (sites : CallSites)
    (function : FunctionDecl) : SynthesisM SynthesisResult :=
  let owner := ownerOf model function
  if isTestable function owner then do
    let target ← drawing (Target.ofFunction model sites function owner)
    let basic ← drawing target.basicTest
    let branches ← allBranchTests settings model target (model.branchesFor function)
    return SynthesisResult.append { tests := [basic] } branches
  else pure {}

/-- The tests of several functions, one function after another. -/
def allTests (settings : SynthesisSettings) (model : Model) (sites : CallSites) :
    List FunctionDecl → SynthesisM SynthesisResult
  | [] => pure {}
  | function :: rest => do
    let first ← functionTests settings model sites function
    let others ← allTests settings model sites rest
    return first.append others

/-- The tests of a model. -/
def synthesize (settings : SynthesisSettings) (model : Model) :
    Except Number.Error SynthesisResult :=
  (allTests settings model (CallSites.ofModel model) model.functions
    (Twister.ofSeed settings.seed)).map (·.1)

end BranchCover.Synthesis
