import BranchCover.Condition.Shape
import BranchCover.DataFlow.Use
import BranchCover.Value.Atom

/-!
# Driving atoms

The values of parameters are chosen so that the atoms of a condition take the truths of an
assignment, as far as possible. Where several atoms are about one parameter, the first of their
values that suits all of them is taken, and the last if none does.

* `drive`: the values, and the truths that they give the atoms.
-/

namespace BranchCover.Synthesis

/-- The last parameter with a name that is not variadic. -/
def fixedParameter? (function : FunctionDecl) (name : String) : Option Parameter :=
  (function.parameters.filter (!·.isVariadic)).reverse.find? (·.name == name)

/-- The atoms about parameters, with the truths they are to take. -/
def drivenAtoms (function : FunctionDecl) (shapes : List (Option AtomShape))
    (assignment : List Bool) : List (AtomShape × Bool) :=
  (shapes.zip assignment).filterMap fun (shape, truth) =>
    match shape with
    | some shape => if (fixedParameter? function shape.subject).isSome then some (shape, truth)
        else none
    | none => none

/-- Whether a value gives an atom the truth it is to take, or none that can be told. -/
def suitsAtom (values : Bindings) (candidate : String) (atom : AtomShape × Bool) :
    Except Number.Error Bool :=
  (Value.atomHolds atom.1 candidate values).map fun holds => holds.all (· == atom.2)

/-- Whether a value suits each of some atoms; behind one that it does not suit none is looked at. -/
def suits (values : Bindings) (atoms : List (AtomShape × Bool)) (candidate : String) :
    Except Number.Error Bool :=
  atoms.allM (suitsAtom values candidate)

/-- The value chosen among candidates: the first that suits all atoms, or else the last. -/
def chooseValue (values : Bindings) (atoms : List (AtomShape × Bool)) (candidates : List String) :
    Except Number.Error String :=
  (candidates.findM? (suits values atoms)).map fun found =>
    found.getD (candidates.getLast?.getD "")

/-- Binds a parameter so that the atoms about it take their truths. -/
def driveSubject (function : FunctionDecl) (driven : List (AtomShape × Bool)) (values : Bindings)
    (subject : String) : Except Number.Error Bindings :=
  match fixedParameter? function subject with
  | none => .ok values
  | some parameter => do
    let atoms := driven.filter fun (shape, _) => shape.subject == subject
    let candidates ← atoms.mapM fun (shape, truth) =>
      Value.forAtom parameter (some shape) truth values
    return values.set subject (← chooseValue values atoms candidates)

/-- The truth that the bound values give an atom, or the assigned one if that cannot be told. -/
def actualTruth (function : FunctionDecl) (values : Bindings) (shape : Option AtomShape)
    (assigned : Bool) : Except Number.Error Bool :=
  match shape with
  | none => .ok assigned
  | some shape =>
    if (fixedParameter? function shape.subject).isSome then
      match values.get? shape.subject with
      | some value => (Value.atomHolds shape value values).map (·.getD assigned)
      | none => .ok assigned
    else .ok assigned

/-- The truths that the bound values give some atoms, one after another. -/
def actualTruths (function : FunctionDecl) (values : Bindings) :
    List (Option AtomShape × Bool) → Except Number.Error (List Bool)
  | [] => .ok []
  | (shape, assigned) :: rest => do
    let first ← actualTruth function values shape assigned
    let others ← actualTruths function values rest
    return first :: others

/-- The values of parameters, changed so that the atoms of a condition take the truths of an
assignment as far as possible, and the truths that the values give the atoms. -/
def drive (function : FunctionDecl) (conditions : List Condition) (assignment : List Bool)
    (values : Bindings) : Except Number.Error (Bindings × List Bool) := do
  let shapes := conditions.map fun condition => AtomShape.of? condition.text
  let driven := drivenAtoms function shapes assignment
  let subjects := DataFlow.firsts (driven.map fun (shape, _) => shape.subject)
  let values ← subjects.foldlM (driveSubject function driven) values
  let truths ← actualTruths function values (shapes.zip assignment)
  return (values, truths)

end BranchCover.Synthesis
