import BranchCover.Proofs.Synthesis.Drive
import BranchCover.Proofs.Synthesis.TestValues
import BranchCover.Proofs.Value.Boundary

/-!
# What driving picks

Each subject of a condition is driven once, behind the subjects that occur before it. Each atom
about it offers a value, and the first of them that suits all of these atoms is picked, or else the
last. So the atoms take the truths that are asked of them exactly if some offer suits, subject by
subject, as long as no atom compares its subject with one that is bound later.

* `Suits`, `Picks`: what is picked among offered values.
* `PickedFor`: what a subject is bound to, from the values at its turn.
* `drive_pickedFor`: driving binds every subject to what is picked for it.
* `Offered`: some atom about a subject offers a value that suits them all.
* `reaches_iff_offered`: when the atoms take the truths that are asked of them.
-/

namespace BranchCover

/-! ### Operands -/

/-- The name or the literal that an atom compares its subject with. -/
def AtomShape.operandText? : AtomShape → Option String
  | comparison _ _ operand => some (trimmed (operand.getD ""))
  | emptiness _ _ => none
  | boolean _ => none

namespace Value

variable {shape : AtomShape} {known known' : Bindings}

/-- The truth of an atom depends on what is bound to its operand only. -/
theorem atomHolds_congr_operand (value : String)
    (h : ∀ operand ∈ shape.operandText?, known.get? operand = known'.get? operand) :
    atomHolds shape value known = atomHolds shape value known' := by
  cases shape with
  | boolean _ => rfl
  | emptiness _ _ => rfl
  | comparison _ operator operand => simp only [atomHolds, h _ rfl]

/-- The value for an atom depends on what is bound to its operand only. -/
theorem forAtom_congr_operand (parameter : Parameter) (desired : Bool)
    (h : ∀ operand ∈ shape.operandText?, known.get? operand = known'.get? operand) :
    forAtom parameter (some shape) desired known =
      forAtom parameter (some shape) desired known' := by
  cases shape with
  | boolean _ => rfl
  | emptiness _ _ => rfl
  | comparison _ operator operand => simp only [forAtom, h _ rfl]

end Value

namespace Synthesis

variable {function : FunctionDecl} {known : Bindings} {atoms driven : List (AtomShape × Bool)}
  {candidates : List String} {value : String}

/-! ### One subject -/

/-- A value suits some atoms: it gives none of them, as far as can be told, another truth than is
asked. -/
def Suits (known : Bindings) (atoms : List (AtomShape × Bool)) (value : String) : Prop :=
  ∀ atom ∈ atoms, ∃ holds, Value.atomHolds atom.1 value known = .ok holds ∧ ∀ truth ∈ holds,
    truth = atom.2

theorem suits_eq_ok_true_iff : suits known atoms value = .ok true ↔ Suits known atoms value := by
  rw [suits, allM_eq_ok_true_iff]
  refine forall₂_congr fun atom hatom => ?_
  rw [suitsAtom, map_eq_ok_iff]
  refine exists_congr fun holds => and_congr_right fun _ => ?_
  cases holds <;> simp

/-- What is picked among candidates: the first that suits some atoms, or the last if none does. -/
inductive Picks (known : Bindings) (atoms : List (AtomShape × Bool)) : List String → String → Prop
  | first {before after : List String} {value : String}
      (passed : ∀ other ∈ before, ¬ Suits known atoms other)
      (suited : Suits known atoms value) : Picks known atoms (before ++ value :: after) value
  | last {before : List String} {value : String}
      (passed : ∀ other ∈ before ++ [value], ¬ Suits known atoms other) :
      Picks known atoms (before ++ [value]) value

theorem picks_of_chooseValue (hne : candidates ≠ [])
    (h : chooseValue known atoms candidates = .ok value) :
    Picks known atoms candidates value := by
  have hpassed : ∀ other, suits known atoms other = .ok false → ¬ Suits known atoms other := by
    intro other hfalse hsuits
    rw [suits_eq_ok_true_iff.2 hsuits] at hfalse
    cases hfalse
  obtain ⟨found, hfound, rfl⟩ := map_eq_ok_iff.1 h
  cases found with
  | some candidate =>
    obtain ⟨before, after, rfl, hbefore, hsuits⟩ := findM?_eq_ok_some hfound
    exact .first (fun other hother =>
      hpassed other (hbefore other hother)) (suits_eq_ok_true_iff.1 hsuits)
  | none =>
    obtain ⟨before, last, rfl⟩ : ∃ before last, candidates = before ++ [last] :=
      ⟨_, _, (List.dropLast_concat_getLast hne).symm⟩
    have hlast : (before ++ [last]).getLast? = some last := List.getLast?_concat
    rw [hlast]
    exact .last fun other hother => hpassed other (findM?_eq_ok_none hfound other hother)

theorem Picks.mem (h : Picks known atoms candidates value) : value ∈ candidates := by
  cases h <;> simp

/-- Where some candidate suits, so does the one that is picked. -/
theorem Picks.suits (h : Picks known atoms candidates value) {other : String}
    (hother : other ∈ candidates)
    (hsuits : Suits known atoms other) : Suits known atoms value := by
  cases h with
  | first _ suited => exact suited
  | last passed => exact absurd hsuits (passed other hother)

/-- Each of some atoms about a parameter offers its value. -/
def Offers (parameter : Parameter) (known : Bindings) (atoms : List (AtomShape × Bool))
    (candidates : List String) : Prop :=
  List.Forall₂ (fun atom candidate =>
    Value.forAtom parameter (some atom.1) atom.2 known = .ok candidate)
    atoms candidates

/-- A step binds its subject to what is picked among the values that the atoms about it offer. -/
theorem driveSubject_picks {parameter : Parameter} {atom : AtomShape × Bool} {values' : Bindings}
    (hparameter : fixedParameter? function atom.1.subject = some parameter) (hatom : atom ∈ driven)
    (h : driveSubject function driven known atom.1.subject = .ok values') :
    ∃ candidates value, Offers parameter known (atomsAbout driven atom.1.subject) candidates ∧
      Picks known (atomsAbout driven atom.1.subject) candidates value ∧
      values' = known.set atom.1.subject value := by
  simp only [driveSubject, hparameter] at h
  obtain ⟨candidates, hcandidates, h⟩ := bind_eq_ok_iff.1 h
  obtain ⟨value, hvalue, h⟩ := bind_eq_ok_iff.1 h
  have hoffers : Offers parameter known (atomsAbout driven atom.1.subject) candidates :=
    mapM_eq_ok_iff.1 hcandidates
  have hne : candidates ≠ [] := by
    rintro rfl
    have hnil : atomsAbout driven atom.1.subject = [] := List.forall₂_nil_right_iff.1 hoffers
    exact List.ne_nil_of_mem (mem_atomsAbout.2 ⟨hatom, rfl⟩) hnil
  exact ⟨candidates, value, hoffers, picks_of_chooseValue hne hvalue, (Except.ok.inj h).symm⟩

/-! ### All subjects -/

/-- What a subject is bound to. When it is driven, the subjects before it have their final values
and all other names those of the start; its value is picked among those that the atoms about it
offer then. -/
inductive PickedFor (function : FunctionDecl) (driven : List (AtomShape × Bool))
    (start final : Bindings)
    (subject : String) : Prop
  | intro (before after : List String) (known : Bindings) (parameter : Parameter)
      (candidates : List String)
      (value : String) (order : subjectsOf driven = before ++ subject :: after)
      (unchanged : ∀ name ∉ before, known.get? name = start.get? name)
      (settled : ∀ name ∉ subject :: after, known.get? name = final.get? name)
      (fixed : fixedParameter? function subject = some parameter)
      (offers : Offers parameter known (atomsAbout driven subject) candidates)
      (picks : Picks known (atomsAbout driven subject) candidates value)
      (bound : final.get? subject = some value) : PickedFor function driven start final subject

/-- What is picked does not depend on the order in which the names are bound at the end. -/
theorem PickedFor.congr {start final final' : Bindings} {subject : String}
    (h : PickedFor function driven start final subject)
    (hsame : ∀ name, final.get? name = final'.get? name) :
    PickedFor function driven start final' subject := by
  obtain ⟨before, after, known, parameter, candidates, value, order, unchanged, settled, fixed,
    offers, picks, bound⟩ := h
  refine .intro before after known parameter candidates value order unchanged (fun name hname =>
    ?_) fixed offers
    picks ?_
  · rw [settled name hname, hsame]
  · rw [← hsame, bound]

/-- **Driving binds each subject to what is picked for it.** -/
theorem drive_pickedFor {conditions : List Condition} {assignment truths : List Bool}
    {start final : Bindings}
    (h : drive function conditions assignment start = .ok (final, truths)) {atom : AtomShape × Bool}
    (hatom : atom ∈ drivenAtoms function (shapesOf conditions) assignment) :
    PickedFor function (drivenAtoms function (shapesOf conditions) assignment) start final
      atom.1.subject := by
  generalize hdriven : drivenAtoms function (shapesOf conditions) assignment = driven at hatom
  have hrun := (drive_eq_ok_iff.1 h).1
  rw [hdriven] at hrun
  obtain ⟨before, after, known, next, horder, hbefore, hstep, hafter⟩ :=
    foldlM_split hrun (mem_subjectsOf.2 ⟨atom, hatom, rfl⟩)
  have hfixed := (mem_drivenAtoms.1 (hdriven ▸ hatom)).2
  obtain ⟨parameter, hparameter⟩ := Option.isSome_iff_exists.1 hfixed
  obtain ⟨candidates, value, hoffers, hpicks, rfl⟩ := driveSubject_picks hparameter hatom hstep
  -- no subject is driven twice
  have hnodup : (before ++ atom.1.subject :: after).Nodup := horder ▸ DataFlow.nodup_firsts _
  have hlater : atom.1.subject ∉ after := (List.nodup_cons.1 (List.nodup_append.1 hnodup).2.1).1
  refine .intro before after known parameter candidates value horder ?_ ?_ hparameter hoffers
    hpicks ?_
  · intro name hname
    exact foldlM_driveSubject_frame hname hbefore
  · intro name hname
    rw [List.mem_cons, not_or] at hname
    rw [foldlM_driveSubject_frame hname.2 hafter, Bindings.get?_set_of_ne known (Ne.symm hname.1)]
  · rw [foldlM_driveSubject_frame hlater hafter, Bindings.get?_set_self]

/-! ### When the truths are reached -/

/-- The truth of an atom under some bindings, if they tell it. -/
def boundTruth? (values : Bindings) (shape : AtomShape) : Except Number.Error (Option Bool) :=
  match values.get? shape.subject with
  | some value => Value.atomHolds shape value values
  | none => .ok none

/-- No atom compares its subject with itself or with a subject that is driven later. -/
def ComparesBack (driven : List (AtomShape × Bool)) : Prop :=
  ∀ before subject after, subjectsOf driven = before ++ subject :: after →
    ∀ atom ∈ atomsAbout driven subject, ∀ operand ∈ atom.1.operandText?, operand ∉ subject :: after

theorem comparesBack_of_notMem
    (h : ∀ atom ∈ driven, ∀ operand ∈ atom.1.operandText?, operand ∉ subjectsOf driven) :
      ComparesBack driven := by
  intro before subject after horder atom hatom operand hoperand hmem
  refine h atom (mem_atomsAbout.1 hatom).1 operand hoperand ?_
  rw [horder]
  exact List.mem_append_right before hmem

/-- Some atom about a subject offers a value for which all atoms about it have the truths that are
asked. -/
def Offered (function : FunctionDecl) (driven : List (AtomShape × Bool)) (values : Bindings)
    (subject : String) :
    Prop :=
  ∃ parameter, fixedParameter? function subject = some parameter ∧
    ∃ atom ∈ atomsAbout driven subject, ∃ value,
      Value.forAtom parameter (some atom.1) atom.2 values = .ok value ∧
      ∀ other ∈ atomsAbout driven subject, Value.atomHolds other.1 value values = .ok (some other.2)

variable {start final : Bindings} {subject : String}

/-- A value that is offered and suits under the final values does so when the subject is driven. -/
theorem PickedFor.reaches_iff (h : PickedFor function driven start final subject)
    (hback : ComparesBack driven)
    (htold : ∀ atom ∈ atomsAbout driven subject, ∃ truth,
      boundTruth? final atom.1 = .ok (some truth)) :
    (∀ atom ∈ atomsAbout driven subject, boundTruth? final atom.1 = .ok (some atom.2)) ↔
      Offered function driven final subject := by
  obtain ⟨before, after, known, parameter, candidates, value, horder, -, hsettled, hfixed, hoffers,
    hpicks, hbound⟩ := h
  have hknown : ∀ atom ∈ atomsAbout driven subject, ∀ operand ∈ atom.1.operandText?,
      known.get? operand = final.get? operand := fun atom hatom operand hoperand =>
    hsettled operand (hback before subject after horder atom hatom operand hoperand)
  have htruth : ∀ atom ∈ atomsAbout driven subject,
      boundTruth? final atom.1 = Value.atomHolds atom.1 value final := by
    intro atom hatom
    rw [boundTruth?, (mem_atomsAbout.1 hatom).2, hbound]
  constructor
  · intro hreached
    obtain ⟨atom, hatom, hfor⟩ : ∃ atom ∈ atomsAbout driven subject,
        Value.forAtom parameter (some atom.1) atom.2 known = .ok value :=
      exists_of_mem_mapM (mapM_eq_ok_iff.2 hoffers) hpicks.mem
    refine ⟨parameter, hfixed, atom, hatom, value, ?_, fun other hother => ?_⟩
    · rw [← Value.forAtom_congr_operand parameter atom.2 (hknown atom hatom), hfor]
    · rw [← htruth other hother, hreached other hother]
  · rintro ⟨found, hfound, atom, hatom, offered, hfor, hall⟩
    obtain rfl : parameter = found := Option.some.inj (hfixed.symm.trans hfound)
    rw [← Value.forAtom_congr_operand parameter atom.2 (hknown atom hatom)] at hfor
    have hcandidate : offered ∈ candidates := by
      obtain ⟨candidate, hmem, hcandidate⟩ := exists_mem_of_mapM (mapM_eq_ok_iff.2 hoffers) hatom
      obtain rfl : candidate = offered := Except.ok.inj (hcandidate.symm.trans hfor)
      exact hmem
    have hsuits : Suits known (atomsAbout driven subject) offered := fun other hother =>
      ⟨some other.2,
        by rw [Value.atomHolds_congr_operand offered (hknown other hother), hall other hother],
        by simp⟩
    intro other hother
    obtain ⟨holds, hholds, hagrees⟩ := hpicks.suits hcandidate hsuits other hother
    obtain ⟨truth, htold⟩ := htold other hother
    rw [htruth other hother, ← Value.atomHolds_congr_operand value (hknown other hother),
      hholds] at htold ⊢
    obtain rfl := Except.ok.inj htold
    rw [hagrees truth rfl]

/-- **The atoms take the truths that are asked exactly if each subject is offered a value that
suits.** -/
theorem reaches_iff_offered
    (hpicked : ∀ atom ∈ driven, PickedFor function driven start final atom.1.subject)
    (hback : ComparesBack driven)
    (htold : ∀ atom ∈ driven, ∃ truth, boundTruth? final atom.1 = .ok (some truth)) :
    (∀ atom ∈ driven, boundTruth? final atom.1 = .ok (some atom.2)) ↔
      ∀ atom ∈ driven, Offered function driven final atom.1.subject := by
  have hiff : ∀ atom ∈ driven,
      (∀ other ∈ atomsAbout driven atom.1.subject, boundTruth? final other.1 = .ok (some other.2)) ↔
        Offered function driven final atom.1.subject := fun atom hatom =>
    (hpicked atom hatom).reaches_iff hback fun other hother =>
      htold other (mem_atomsAbout.1 hother).1
  constructor
  · intro hreached atom hatom
    exact (hiff atom hatom).1 fun other hother => hreached other (mem_atomsAbout.1 hother).1
  · intro hoffered atom hatom
    exact (hiff atom hatom).2 (hoffered atom hatom) atom (mem_atomsAbout.2 ⟨hatom, rfl⟩)

end Synthesis

end BranchCover
