import BranchCover.Proofs.Bindings
import BranchCover.Proofs.DataFlow.Firsts
import BranchCover.Proofs.Value.Comparison
import BranchCover.Synthesis.Drive
import BranchCover.Synthesis.Target
import Mathlib.Data.List.Nodup

/-!
# What driving the atoms of a condition does

Driving binds values to the subjects of atoms, one subject after another, and leaves every other
parameter alone. The bound values are readable at every step, so driving fails only on an atom whose
own literal cannot be read.

* `Suitable`: the values bound to the parameters of a function, each readable.
* `driveSubject_suitable`, `drive_suitable`: what one step and a whole run keep.
* `drive_frame`: parameters that no atom is about keep their values.
* `returns_drive_iff`: driving succeeds exactly when each driven atom can be read.
-/

namespace BranchCover.Synthesis

variable {function : FunctionDecl} {values values' : Bindings}

/-! ### Fixed parameters -/

theorem fixedParameter?_eq_some {name : String} {parameter : Parameter}
    (h : fixedParameter? function name = some parameter) :
    parameter ∈ function.parameters ∧ parameter.isVariadic = false ∧ parameter.name = name := by
  have hmem := List.mem_of_find?_eq_some h
  have hname := List.find?_some h
  rw [List.mem_reverse, List.mem_filter] at hmem
  exact ⟨hmem.1, by simpa using hmem.2, by simpa using hname⟩

theorem isSome_fixedParameter? {name : String} :
    (fixedParameter? function name).isSome = true ↔
      ∃ parameter ∈ function.parameters, parameter.isVariadic = false ∧ parameter.name = name := by
  rw [fixedParameter?, List.find?_isSome]
  constructor
  · rintro ⟨parameter, hmem, hname⟩
    rw [List.mem_reverse, List.mem_filter] at hmem
    exact ⟨parameter, hmem.1, by simpa using hmem.2, by simpa using hname⟩
  · rintro ⟨parameter, hmem, hfixed, hname⟩
    refine ⟨parameter, ?_, by simpa using hname⟩
    rw [List.mem_reverse, List.mem_filter]
    exact ⟨hmem, by simpa using hfixed⟩

/-- Where the names are pairwise distinct, a name stands for its only parameter. -/
theorem fixedParameter?_of_nodup {parameter : Parameter}
    (hnodup : (function.parameters.map (·.name)).Nodup) (hmem : parameter ∈ function.parameters)
    (hfixed : parameter.isVariadic = false) :
    fixedParameter? function parameter.name = some parameter := by
  obtain ⟨found, hfound⟩ := Option.isSome_iff_exists.1
    (isSome_fixedParameter?.2 ⟨parameter, hmem, hfixed, rfl⟩)
  obtain ⟨hfoundMem, -, hname⟩ := fixedParameter?_eq_some hfound
  rw [hfound, List.inj_on_of_nodup_map hnodup hfoundMem hmem hname]

/-! ### Suitable values -/

/-- The values of exactly the parameters that are not variadic, each of them readable. -/
structure Suitable (function : FunctionDecl) (values : Bindings) : Prop where
  bound : ∀ name, (values.get? name).isSome = (fixedParameter? function name).isSome
  readable : ∀ name value, values.get? name = some value → Value.Readable value

theorem Suitable.set (h : Suitable function values) {name value : String}
    (hname : (fixedParameter? function name).isSome = true) (hvalue : Value.Readable value) :
    Suitable function (values.set name value) where
  bound other := by
    rw [Bindings.get?_set]
    by_cases hother : name = other
    · rw [if_pos hother, ← hother, hname]
      rfl
    · rw [if_neg hother]
      exact h.bound other
  readable other bound hbound := by
    rw [Bindings.get?_set] at hbound
    by_cases hother : name = other
    · rw [if_pos hother] at hbound
      exact Option.some.inj hbound ▸ hvalue
    · rw [if_neg hother] at hbound
      exact h.readable other bound hbound

theorem get?_neutralValues (target : Target) (name : String) :
    target.neutralValues.get? name =
      (fixedParameter? target.function name).map fun parameter =>
        Value.neutral parameter.typeName := by
  rw [Target.neutralValues, Bindings.get?_ofList, ← List.map_reverse, List.find?_map,
    Option.map_map]
  rfl

theorem suitable_neutralValues (target : Target) :
    Suitable target.function target.neutralValues where
  bound name := by rw [get?_neutralValues, Option.isSome_map]
  readable name value h := by
    rw [get?_neutralValues] at h
    obtain ⟨parameter, -, rfl⟩ := Option.map_eq_some_iff.1 h
    exact Value.neutral_readable parameter.typeName

/-! ### One subject -/

/-- The atoms about a subject. -/
def atomsAbout (driven : List (AtomShape × Bool)) (subject : String) : List (AtomShape × Bool) :=
  driven.filter fun (shape, _) => shape.subject == subject

theorem mem_atomsAbout {driven : List (AtomShape × Bool)} {atom : AtomShape × Bool}
    {subject : String} :
    atom ∈ atomsAbout driven subject ↔ atom ∈ driven ∧ atom.1.subject = subject := by
  rw [atomsAbout, List.mem_filter, beq_iff_eq]

/-- The chosen value is readable if all candidates are. -/
theorem chooseValue_readable {atoms : List (AtomShape × Bool)} {candidates : List String}
    {value : String} (hcandidates : ∀ c ∈ candidates, Value.Readable c)
    (h : chooseValue values atoms candidates = .ok value) : Value.Readable value := by
  obtain ⟨found, hfound, rfl⟩ := map_eq_ok_iff.1 h
  cases found with
  | some candidate => exact hcandidates candidate (mem_of_findM?_eq_ok hfound)
  | none =>
    cases hlast : candidates.getLast? with
    | none => exact ⟨none, rfl, by simp⟩
    | some last => exact hcandidates last (List.mem_of_getLast? hlast)

theorem returns_chooseValue {atoms : List (AtomShape × Bool)} {candidates : List String}
    (h : ∀ c ∈ candidates, ∀ atom ∈ atoms, Returns (Value.atomHolds atom.1 c values)) :
    Returns (chooseValue values atoms candidates) := by
  refine returns_map_iff.2 (returns_findM? fun c hc => returns_allM fun atom hatom => ?_)
  exact returns_map_iff.2 (h c hc atom hatom)

/-- What a step that returns has done: it bound a readable value to its subject, and each atom about
the subject has a value. -/
theorem driveSubject_cases {driven : List (AtomShape × Bool)} {subject : String}
    (h : driveSubject function driven values subject = .ok values') :
    (fixedParameter? function subject = none ∧ values' = values) ∨
      ∃ parameter value, fixedParameter? function subject = some parameter ∧ Value.Readable value ∧
        values' = values.set subject value ∧
        ∀ atom ∈ driven, atom.1.subject = subject →
          Returns (Value.forAtom parameter (some atom.1) atom.2 values) := by
  unfold driveSubject at h
  cases hparameter : fixedParameter? function subject with
  | none =>
    simp only [hparameter] at h
    exact Or.inl ⟨rfl, (Except.ok.inj h).symm⟩
  | some parameter =>
    simp only [hparameter] at h
    obtain ⟨candidates, hcandidates, h⟩ := bind_eq_ok_iff.1 h
    obtain ⟨value, hvalue, h⟩ := bind_eq_ok_iff.1 h
    refine Or.inr ⟨parameter, value, rfl, ?_, (Except.ok.inj h).symm, fun atom hatom hsubject => ?_⟩
    · refine chooseValue_readable (fun c hc => ?_) hvalue
      obtain ⟨atom, -, hatom⟩ := exists_of_mem_mapM hcandidates hc
      exact Value.forAtom_readable hatom
    · exact returns_mapM_iff.1 ⟨candidates, hcandidates⟩ atom (mem_atomsAbout.2 ⟨hatom, hsubject⟩)

theorem driveSubject_suitable {driven : List (AtomShape × Bool)} {subject : String}
    (hvalues : Suitable function values)
    (h : driveSubject function driven values subject = .ok values') :
      Suitable function values' := by
  obtain ⟨-, rfl⟩ | ⟨parameter, value, hparameter, hvalue, rfl, -⟩ := driveSubject_cases h
  · exact hvalues
  · exact hvalues.set (by rw [hparameter]; rfl) hvalue

/-- A step succeeds if each atom about its subject has a value. -/
theorem returns_driveSubject {driven : List (AtomShape × Bool)} (subject : String)
    (h : ∀ atom ∈ driven, ∀ parameter, fixedParameter? function atom.1.subject = some parameter →
      Returns (Value.forAtom parameter (some atom.1) atom.2 values)) :
    Returns (driveSubject function driven values subject) := by
  unfold driveSubject
  cases hparameter : fixedParameter? function subject with
  | none => exact returns_ok _
  | some parameter =>
    dsimp only
    have hatoms : ∀ atom ∈ atomsAbout driven subject,
        Returns (Value.forAtom parameter (some atom.1) atom.2 values) := by
      intro atom hatom
      obtain ⟨hmem, hsubject⟩ := mem_atomsAbout.1 hatom
      exact h atom hmem parameter (by rw [hsubject, hparameter])
    obtain ⟨candidates, hcandidates⟩ := returns_mapM_iff.2 hatoms
    refine returns_bind_iff.2 ⟨candidates, hcandidates, ?_⟩
    have hchoose : Returns (chooseValue values (atomsAbout driven subject) candidates) := by
      refine returns_chooseValue fun c hc atom hatom => ?_
      obtain ⟨_, -, hfor⟩ := exists_of_mem_mapM hcandidates hc
      exact Value.returns_atomHolds (Value.forAtom_readable hfor) (hatoms atom hatom)
    obtain ⟨value, hvalue⟩ := hchoose
    exact returns_bind_iff.2 ⟨value, hvalue, returns_ok _⟩

/-! ### Atoms that can be read -/

/-- The literal of an atom can be read: a comparison is with a parameter, or with a literal that
gives its subject a value. -/
def AtomReadable (function : FunctionDecl) : AtomShape × Bool → Prop
  | (.comparison subject operator operand, desired) =>
    (fixedParameter? function (trimmed (operand.getD ""))).isSome = true ∨
      ∀ parameter, fixedParameter? function subject = some parameter →
        Value.OperandReadable parameter.typeName (operator.getD (.unknown ""))
          (trimmed (operand.getD "")) desired
  | _ => True

/-- Under suitable values it depends on the atom alone whether it has a value. -/
theorem atomReadable_iff (hvalues : Suitable function values) {atom : AtomShape × Bool}
    {parameter : Parameter}
    (hparameter : fixedParameter? function atom.1.subject = some parameter) :
    AtomReadable function atom ↔
      Returns (Value.forAtom parameter (some atom.1) atom.2 values) := by
  obtain ⟨shape, desired⟩ := atom
  cases shape with
  | boolean _ => exact iff_of_true trivial (returns_ok _)
  | emptiness _ _ => exact iff_of_true trivial (returns_ok _)
  | comparison subject operator operand =>
    have hsubject : fixedParameter? function subject = some parameter := hparameter
    simp only [AtomReadable, Value.forAtom]
    rw [← hvalues.bound]
    cases hbound : values.get? (trimmed (operand.getD "")) with
    | some value =>
      have hreadable := hvalues.readable _ value hbound
      exact iff_of_true (Or.inl rfl) (Value.returns_comparisonValue _ _ hreadable)
    | none =>
      -- a literal operand means the same whatever is bound
      rw [Option.getD_none, Value.returns_comparisonValue_iff]
      simp [hsubject]

/-! ### All subjects -/

/-- The shapes of the atoms of a condition. -/
def shapesOf (conditions : List Condition) : List (Option AtomShape) :=
  conditions.map fun condition => AtomShape.of? condition.text

theorem mem_drivenAtoms {shapes : List (Option AtomShape)} {assignment : List Bool}
    {atom : AtomShape × Bool} :
    atom ∈ drivenAtoms function shapes assignment ↔
      (some atom.1, atom.2) ∈ shapes.zip assignment ∧
        (fixedParameter? function atom.1.subject).isSome = true := by
  unfold drivenAtoms
  rw [List.mem_filterMap]
  constructor
  · rintro ⟨⟨shape, truth⟩, hmem, hatom⟩
    cases shape with
    | none => simp at hatom
    | some shape =>
      dsimp only at hatom
      split at hatom
      · rename_i hsome
        obtain rfl := Option.some.inj hatom
        exact ⟨hmem, hsome⟩
      · cases hatom
  · rintro ⟨hmem, hsome⟩
    exact ⟨_, hmem, by simp [hsome]⟩

/-- The subjects of some atoms, in the order in which they are driven. -/
def subjectsOf (driven : List (AtomShape × Bool)) : List String :=
  DataFlow.firsts (driven.map fun (shape, _) => shape.subject)

/-- The subjects that are driven are those of the driven atoms. -/
theorem mem_subjectsOf {driven : List (AtomShape × Bool)} {subject : String} :
    subject ∈ subjectsOf driven ↔ ∃ atom ∈ driven, atom.1.subject = subject := by
  rw [subjectsOf, DataFlow.mem_firsts, List.mem_map]

theorem actualTruths_eq_mapM (pairs : List (Option AtomShape × Bool)) :
    actualTruths function values pairs =
      pairs.mapM fun pair => actualTruth function values pair.1 pair.2 := by
  induction pairs with
  | nil => rfl
  | cons pair pairs ih => rw [actualTruths, List.mapM_cons, ih]

/-- A truth can be told where the values are suitable and the atom can be read. -/
theorem returns_actualTruth (hvalues : Suitable function values) {shape : Option AtomShape}
    {assigned : Bool}
    (h : ∀ found, shape = some found → (fixedParameter? function found.subject).isSome = true →
      AtomReadable function (found, assigned)) :
    Returns (actualTruth function values shape assigned) := by
  cases shape with
  | none => exact returns_ok _
  | some shape =>
    unfold actualTruth
    dsimp only
    by_cases hsome : (fixedParameter? function shape.subject).isSome = true
    · rw [if_pos hsome]
      obtain ⟨parameter, hparameter⟩ := Option.isSome_iff_exists.1 hsome
      cases hvalue : values.get? shape.subject with
      | none => exact returns_ok _
      | some value =>
        have hfor : Returns (Value.forAtom parameter (some shape) assigned values) :=
          (atomReadable_iff hvalues hparameter).1 (h shape rfl hsome)
        exact returns_map_iff.2
          (Value.returns_atomHolds (hvalues.readable shape.subject value hvalue) hfor)
    · rw [if_neg hsome]
      exact returns_ok _

/-- The two passes of driving: the subjects, then the truths. -/
theorem drive_eq_ok_iff {conditions : List Condition} {assignment truths : List Bool} :
    drive function conditions assignment values = .ok (values', truths) ↔
      (subjectsOf (drivenAtoms function (shapesOf conditions) assignment)).foldlM
        (driveSubject function (drivenAtoms function (shapesOf conditions) assignment)) values
          = .ok values' ∧
      actualTruths function values' ((shapesOf conditions).zip assignment) = .ok truths := by
  unfold drive
  rw [bind_eq_ok_iff]
  constructor
  · rintro ⟨bound, hbound, h⟩
    obtain ⟨found, hfound, h⟩ := bind_eq_ok_iff.1 h
    obtain ⟨rfl, rfl⟩ := Prod.mk.inj (Except.ok.inj h)
    exact ⟨hbound, hfound⟩
  · rintro ⟨hbound, hfound⟩
    exact ⟨values', hbound, bind_eq_ok_iff.2 ⟨truths, hfound, rfl⟩⟩

theorem drive_suitable {conditions : List Condition} {assignment truths : List Bool}
    (hvalues : Suitable function values)
    (h : drive function conditions assignment values = .ok (values', truths)) :
    Suitable function values' :=
  (foldlM_keeps (Suitable function) (fun _ _ _ _ hb hstep => driveSubject_suitable hb hstep) hvalues
    (drive_eq_ok_iff.1 h).1).1

/-- A name that is no subject keeps its value. -/
theorem foldlM_driveSubject_frame {driven : List (AtomShape × Bool)} {subjects : List String}
    {name : String}
    (hname : name ∉ subjects)
    (h : subjects.foldlM (driveSubject function driven) values = .ok values') :
    values'.get? name = values.get? name := by
  refine (foldlM_keeps (fun bound => bound.get? name = values.get? name) ?_ rfl h).1
  intro subject hsubject before after hbefore hstep
  obtain ⟨-, rfl⟩ | ⟨_, value, -, -, rfl, -⟩ := driveSubject_cases hstep
  · exact hbefore
  · have hne : subject ≠ name := fun heq => hname (heq ▸ hsubject)
    rw [Bindings.get?_set_of_ne before hne]
    exact hbefore

/-- A parameter that no driven atom is about keeps its value. -/
theorem drive_frame {conditions : List Condition} {assignment truths : List Bool} {name : String}
    (hname : ∀ atom ∈ drivenAtoms function (shapesOf conditions) assignment, atom.1.subject ≠ name)
    (h : drive function conditions assignment values = .ok (values', truths)) :
    values'.get? name = values.get? name := by
  refine foldlM_driveSubject_frame (fun hsubject => ?_) (drive_eq_ok_iff.1 h).1
  obtain ⟨atom, hatom, hsame⟩ := mem_subjectsOf.1 hsubject
  exact hname atom hatom hsame

/-! ### Different subjects -/

theorem atomsAbout_of_nodup {driven : List (AtomShape × Bool)}
    (hdistinct : (driven.map fun atom => atom.1.subject).Nodup) {atom : AtomShape × Bool}
    (hatom : atom ∈ driven) : atomsAbout driven atom.1.subject = [atom] := by
  unfold atomsAbout
  induction driven with
  | nil => cases hatom
  | cons first rest ih =>
    rw [List.map_cons, List.nodup_cons] at hdistinct
    rw [List.filter_cons]
    rcases List.mem_cons.1 hatom with rfl | hrest
    · have hnone : atomsAbout rest atom.1.subject = [] := by
        refine List.filter_eq_nil_iff.2 fun other hother hsame => hdistinct.1 ?_
        exact List.mem_map.2 ⟨other, hother, by simpa using hsame⟩
      rw [atomsAbout] at hnone
      simp [hnone]
    · have hne : first.1.subject ≠ atom.1.subject := fun hsame =>
        hdistinct.1 (List.mem_map.2 ⟨atom, hrest, hsame.symm⟩)
      simp only [beq_iff_eq, hne, if_false]
      exact ih hdistinct.2 hrest

/-- The only atom about a subject decides the value that is bound to it. -/
theorem driveSubject_single {driven : List (AtomShape × Bool)} {atom : AtomShape × Bool}
    {parameter : Parameter}
    (hsingle : atomsAbout driven atom.1.subject = [atom])
    (hparameter : fixedParameter? function atom.1.subject = some parameter)
    (h : driveSubject function driven values atom.1.subject = .ok values') :
    ∃ value, Value.forAtom parameter (some atom.1) atom.2 values = .ok value ∧
      values' = values.set atom.1.subject value := by
  rw [atomsAbout] at hsingle
  simp only [driveSubject, hparameter, hsingle] at h
  obtain ⟨candidates, hcandidates, h⟩ := bind_eq_ok_iff.1 h
  obtain ⟨value, hvalue, h⟩ := bind_eq_ok_iff.1 h
  obtain ⟨candidate, others, hfor, hothers, rfl⟩ :=
    List.forall₂_cons_left_iff.1 (mapM_eq_ok_iff.1 hcandidates)
  obtain rfl := List.forall₂_nil_left_iff.1 hothers
  refine ⟨candidate, hfor, ?_⟩
  -- the first candidate is also the last
  obtain ⟨found, hfound, rfl⟩ := map_eq_ok_iff.1 hvalue
  cases found with
  | none => exact (Except.ok.inj h).symm
  | some found =>
    obtain rfl := List.mem_singleton.1 (mem_of_findM?_eq_ok hfound)
    exact (Except.ok.inj h).symm

/-- Where no two atoms have the same subject, each subject ends with the value for its atom. -/
theorem drive_distinct {conditions : List Condition} {assignment truths : List Bool}
    (hvalues : Suitable function values)
    (hdistinct : ((drivenAtoms function (shapesOf conditions) assignment).map
      fun atom => atom.1.subject).Nodup)
    (h : drive function conditions assignment values = .ok (values', truths))
    {atom : AtomShape × Bool} {parameter : Parameter}
    (hatom : atom ∈ drivenAtoms function (shapesOf conditions) assignment)
    (hparameter : fixedParameter? function atom.1.subject = some parameter) :
    ∃ known value, Suitable function known ∧
      Value.forAtom parameter (some atom.1) atom.2 known = .ok value ∧
      values'.get? atom.1.subject = some value := by
  have hend := foldlM_establishes (Suitable function)
    (fun subject bound => subject = atom.1.subject → ∃ known value, Suitable function known ∧
      Value.forAtom parameter (some atom.1) atom.2 known = .ok value ∧
      bound.get? atom.1.subject = some value)
    (fun subject _ before after hbefore hstep => by
      refine ⟨driveSubject_suitable hbefore hstep, fun hsubject => ?_⟩
      subst hsubject
      obtain ⟨value, hfor, rfl⟩ :=
        driveSubject_single (atomsAbout_of_nodup hdistinct hatom) hparameter hstep
      exact ⟨before, value, hbefore, hfor, Bindings.get?_set_self before value⟩)
    (fun subject _ before after hstep other hother hbound hsubject => by
      obtain ⟨known, value, hknown, hfor, hget⟩ := hbound hsubject
      refine ⟨known, value, hknown, hfor, ?_⟩
      obtain ⟨-, rfl⟩ | ⟨_, _, -, -, rfl, -⟩ := driveSubject_cases hstep
      · exact hget
      · rw [Bindings.get?_set_of_ne before fun hsame => hother (hsubject.trans hsame.symm)]
        exact hget)
    hvalues (drive_eq_ok_iff.1 h).1 (Or.inl (mem_subjectsOf.2 ⟨atom, hatom, rfl⟩))
  exact hend rfl

/-! ### Success -/

/-- **Driving succeeds exactly when each driven atom can be read.** -/
theorem returns_drive_iff {conditions : List Condition} {assignment : List Bool}
    (hvalues : Suitable function values) :
    Returns (drive function conditions assignment values) ↔
      ∀ atom ∈ drivenAtoms function (shapesOf conditions) assignment,
        AtomReadable function atom := by
  constructor
  · rintro ⟨⟨values', truths⟩, h⟩ atom hatom
    -- the atom had a value when its subject was driven, from values that were suitable
    have hsubject : atom.1.subject ∈ DataFlow.firsts
        ((drivenAtoms function (shapesOf conditions) assignment).map fun (shape, _) =>
          shape.subject) :=
      mem_subjectsOf.2 ⟨atom, hatom, rfl⟩
    obtain ⟨before, after, hbefore, hstep⟩ := (foldlM_keeps (Suitable function)
      (fun _ _ _ _ hb hstep => driveSubject_suitable hb hstep) hvalues
      (drive_eq_ok_iff.1 h).1).2 _ hsubject
    have hsome := (mem_drivenAtoms.1 hatom).2
    obtain ⟨hnone, -⟩ | ⟨parameter, -, hparameter, -, -, hall⟩ := driveSubject_cases hstep
    · rw [hnone] at hsome
      cases hsome
    · exact (atomReadable_iff hbefore hparameter).2 (hall atom hatom rfl)
  · intro hreadable
    obtain ⟨values', hfold, hvalues'⟩ := foldlM_returns (Suitable function)
      (f := driveSubject function (drivenAtoms function (shapesOf conditions) assignment))
      (l := DataFlow.firsts ((drivenAtoms function (shapesOf conditions) assignment).map
        fun (shape, _) => shape.subject))
      (fun subject _ bound hbound => by
        obtain ⟨after, hafter⟩ := returns_driveSubject subject
          fun atom hatom parameter hparameter =>
            (atomReadable_iff hbound hparameter).1 (hreadable atom hatom)
        exact ⟨after, hafter, driveSubject_suitable hbound hafter⟩) hvalues
    have htruths : Returns
        (actualTruths function values' ((shapesOf conditions).zip assignment)) := by
      rw [actualTruths_eq_mapM]
      refine returns_mapM_iff.2 fun pair hpair => returns_actualTruth hvalues' ?_
      intro shape hshape hsome
      refine hreadable (shape, pair.2) (mem_drivenAtoms.2 ⟨?_, hsome⟩)
      rw [← hshape]
      exact hpair
    obtain ⟨truths, htruths⟩ := htruths
    exact ⟨(values', truths), drive_eq_ok_iff.2 ⟨hfold, htruths⟩⟩

end BranchCover.Synthesis
