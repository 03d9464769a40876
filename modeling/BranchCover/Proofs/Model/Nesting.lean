import BranchCover.Proofs.Model.Visit
import Mathlib.Data.List.Flatten
import Mathlib.Data.List.Pairwise

/-!
# Declarations inside declarations

The declarations of a file are its classes and functions. Where they are properly nested, the
declarations that stand on a line lie inside one another, and the last of them that is met is the
innermost one.

* `Stamp`: what a declaration says about the lines that it stands on.
* `declarationsOn`: the declarations that stand on a line.
* `ProperlyNested`: a declaration has the lines of those inside it, and siblings share no line.
* `Innermost`: a declaration that stands on a line, with none inside it that does.
* `innermost_iff`: the innermost declaration of a line is the last one.
-/

namespace BranchCover.Build

/-! ### Declarations and their lines -/

/-- What a declaration says about the lines that it stands on. -/
structure Stamp where
  first : Int
  last : Int
  scope : String
  /-- The class itself, or the class around a function. -/
  currentClass : Option String
  /-- The name of a function. -/
  function? : Option String

/-- Whether a declaration stands on a line. -/
def Stamp.covers (stamp : Stamp) (line : Int) : Bool := stamp.first ≤ line && line ≤ stamp.last

/-- What a visited construct says about its lines, if it is a declaration. -/
def Visit.stamp? (file : FileInfo) (visit : Visit) : Option Stamp :=
  match visit.kind with
  | .classDecl =>
    let decl := visit.classDecl file
    some { first := decl.line, last := decl.endLine, scope := decl.scope,
           currentClass := some decl.qualifiedName, function? := none }
  | .function =>
    let decl := visit.function file
    some { first := decl.line, last := decl.endLine, scope := decl.scope,
           currentClass := visit.position.className, function? := some decl.name }
  | _ => none

namespace Visit

/-- Whether a construct is a declaration. -/
def isDeclaration (visit : Visit) : Bool := visit.kind = .classDecl || visit.kind = .function

/-- Whether a construct is a declaration that stands on a line. -/
def standsOn (file : FileInfo) (line : Int) (visit : Visit) : Bool :=
  (visit.stamp? file).any (·.covers line)

/-- The outermost declarations of a construct: the construct itself, or those inside it. -/
def outermost (file : FileInfo) (visit : Visit) : List Visit :=
  if visit.isDeclaration then [visit]
  else (visit.inner file).attach.flatMap fun ⟨other, _⟩ => other.outermost file
termination_by sizeOf visit.tree
decreasing_by exact Visit.sizeOf_of_mem_inner ‹_›

/-- The declarations directly inside a construct. -/
def members (file : FileInfo) (visit : Visit) : List Visit :=
  (visit.inner file).flatMap (outermost file)

theorem outermost_eq (file : FileInfo) (visit : Visit) :
    visit.outermost file = if visit.isDeclaration then [visit] else visit.members file := by
  rw [outermost, members]
  simp

end Visit

/-- The declarations that stand on a line, in the order in which they are met. -/
def declarationsOn (parsed : ParsedFile) (line : Int) : List Visit :=
  (visits parsed).filter (Visit.standsOn (infoOf parsed) line)

/-- Declarations no two of which stand on one line. -/
def Apart (file : FileInfo) (declarations : List Visit) : Prop :=
  declarations.Pairwise fun first second =>
    ∀ line, ¬ (first.standsOn file line = true ∧ second.standsOn file line = true)

/-- In a file a declaration stands on all lines of those inside it, and no two siblings stand on one
line. -/
structure ProperlyNested (parsed : ParsedFile) : Prop where
  topLevel : Apart (infoOf parsed) ((roots parsed).flatMap (Visit.outermost (infoOf parsed)))
  members : ∀ visit ∈ visits parsed, visit.isDeclaration = true →
    Apart (infoOf parsed) (visit.members (infoOf parsed))
  inside : ∀ visit ∈ visits parsed, visit.isDeclaration = true →
      ∀ member ∈ visit.members (infoOf parsed),
    ∀ line, member.standsOn (infoOf parsed) line = true → visit.standsOn (infoOf parsed) line = true

/-- A declaration of a file that stands on a line, with none inside it that does. -/
structure Innermost (parsed : ParsedFile) (line : Int) (visit : Visit) : Prop where
  mem : visit ∈ visits parsed
  standsOn : visit.standsOn (infoOf parsed) line = true
  alone : ∀ other ∈ (visit.inner (infoOf parsed)).flatMap (Visit.walk (infoOf parsed)),
    other.standsOn (infoOf parsed) line = false

variable {file : FileInfo} {parsed : ParsedFile} {line : Int} {visit other first second : Visit}

/-- What stands on a line says something about it. -/
theorem Visit.exists_stamp (h : visit.standsOn file line = true) :
    ∃ stamp, visit.stamp? file = some stamp := by
  obtain ⟨stamp, hstamp, -⟩ := Option.any_eq_true _ _ |>.1 h
  exact ⟨stamp, hstamp⟩

theorem Visit.isDeclaration_of_standsOn (h : visit.standsOn file line = true) :
    visit.isDeclaration = true := by
  unfold Visit.standsOn Visit.stamp? at h
  unfold Visit.isDeclaration
  cases hkind : visit.kind <;> simp_all

/-! ### The last declaration on a line -/

/-- Behind the last construct of a kind there is none inside it. -/
theorem Visit.getLast?_filter_walk {p : Visit → Bool}
    (h : ((visit.walk file).filter p).getLast? = some other) :
    ∀ inner ∈ (other.inner file).flatMap (Visit.walk file), p inner = false := by
  induction visit using Visit.inner_induction file with
  | step visit ih =>
    rw [Visit.walk_eq, List.filter_cons] at h
    by_cases hinside : ((visit.inner file).flatMap (Visit.walk file)).filter p = []
    · have hvisit : other = visit := by
        rw [hinside] at h
        split_ifs at h
        · exact (Option.some.inj h).symm
        · cases h
      rw [hvisit]
      intro inner hinner
      simpa using List.filter_eq_nil_iff.1 hinside inner hinner
    · have hlast : (((visit.inner file).flatMap (Visit.walk file)).filter p).getLast? =
          some other := by
        rw [← h]
        split_ifs
        · rw [List.getLast?_cons_of_ne_nil hinside]
        · rfl
      rw [List.filter_flatMap, List.getLast?_flatMap] at hlast
      obtain ⟨between, hbetween, hlast⟩ := List.exists_of_findSome?_eq_some hlast
      exact ih between (List.mem_reverse.1 hbetween) hlast

/-- The last declaration on a line has none inside it on the line. -/
theorem innermost_of_getLast? (h : (declarationsOn parsed line).getLast? = some visit) :
    Innermost parsed line visit := by
  obtain ⟨hmem, hstands⟩ := List.mem_filter.1 (List.mem_of_getLast? h)
  refine ⟨hmem, hstands, ?_⟩
  rw [declarationsOn, visits, List.filter_flatMap, List.getLast?_flatMap] at h
  obtain ⟨root, -, hlast⟩ := List.exists_of_findSome?_eq_some h
  exact Visit.getLast?_filter_walk hlast

/-! ### The innermost declaration of a line -/

/-- Where a declaration stands, an outermost one around it stands. -/
theorem ProperlyNested.exists_outermost (h : ProperlyNested parsed) (hvisit : visit ∈ visits parsed)
    (hother : other ∈ visit.walk (infoOf parsed))
    (hstands : other.standsOn (infoOf parsed) line = true) :
    ∃ outer ∈ visit.outermost (infoOf parsed), outer.standsOn (infoOf parsed) line = true := by
  induction visit using Visit.inner_induction (infoOf parsed) with
  | step visit ih =>
    rw [Visit.outermost_eq]
    rw [Visit.walk_eq] at hother
    rcases List.mem_cons.1 hother with rfl | hother
    · rw [if_pos (Visit.isDeclaration_of_standsOn hstands)]
      exact ⟨other, List.mem_singleton_self other, hstands⟩
    · obtain ⟨between, hbetween, hother⟩ := List.mem_flatMap.1 hother
      obtain ⟨outer, houter, hline⟩ :=
        ih between hbetween (mem_visits_of_mem_inner hvisit hbetween) hother
      have hmember : outer ∈ visit.members (infoOf parsed) :=
        List.mem_flatMap.2 ⟨between, hbetween, houter⟩
      by_cases hdeclaration : visit.isDeclaration = true
      · rw [if_pos hdeclaration]
        exact ⟨visit, List.mem_singleton_self visit,
          h.inside visit hvisit hdeclaration outer hmember line hline⟩
      · rw [if_neg hdeclaration]
        exact ⟨outer, hmember, hline⟩

/-- Of several constructs whose outermost declarations are apart only one has declarations on a
line. -/
theorem ProperlyNested.eq_of_standsOn (h : ProperlyNested parsed) {constructs : List Visit}
    (hconstructs : ∀ visit ∈ constructs, visit ∈ visits parsed)
    (hapart : Apart (infoOf parsed) (constructs.flatMap (Visit.outermost (infoOf parsed))))
    {left right : Visit} (hleft : left ∈ constructs) (hright : right ∈ constructs)
    (hfirst : first ∈ left.walk (infoOf parsed)) (hsecond : second ∈ right.walk (infoOf parsed))
    (hfirstLine : first.standsOn (infoOf parsed) line = true)
    (hsecondLine : second.standsOn (infoOf parsed) line = true) : left = right := by
  obtain ⟨outer, houter, hline⟩ := h.exists_outermost (hconstructs left hleft) hfirst hfirstLine
  obtain ⟨outer', houter', hline'⟩ :=
    h.exists_outermost (hconstructs right hright) hsecond hsecondLine
  have hsymm : Std.Symm fun left right : Visit => ∀ first ∈ left.outermost (infoOf parsed),
      ∀ second ∈ right.outermost (infoOf parsed), ∀ line,
        ¬ (first.standsOn (infoOf parsed) line = true ∧
          second.standsOn (infoOf parsed) line = true) :=
    ⟨fun _ _ happart first hfirst second hsecond line hline =>
      happart second hsecond first hfirst line hline.symm⟩
  by_contra hne
  exact (List.pairwise_flatMap.1 hapart).2.forall hleft hright hne outer houter outer' houter' line
    ⟨hline, hline'⟩

/-- A construct whose outermost declarations are apart has one innermost declaration on a line at
most. -/
theorem ProperlyNested.innermost_unique_in (h : ProperlyNested parsed)
    (hvisit : visit ∈ visits parsed)
    (hapart : Apart (infoOf parsed) (visit.outermost (infoOf parsed)))
    (hfirst : first ∈ visit.walk (infoOf parsed)) (hsecond : second ∈ visit.walk (infoOf parsed))
    (hinnermost : Innermost parsed line first) (hinnermost' : Innermost parsed line second) :
      first = second := by
  induction visit using Visit.inner_induction (infoOf parsed) with
  | step visit ih =>
    have hmembers : Apart (infoOf parsed) (visit.members (infoOf parsed)) := by
      by_cases hdeclaration : visit.isDeclaration = true
      · exact h.members visit hvisit hdeclaration
      · rwa [Visit.outermost_eq, if_neg hdeclaration] at hapart
    rw [Visit.walk_eq] at hfirst hsecond
    rcases List.mem_cons.1 hfirst with rfl | hfirst
    · rcases List.mem_cons.1 hsecond with rfl | hsecond
      · rfl
      · exact absurd hinnermost'.standsOn (by simp [hinnermost.alone second hsecond])
    · rcases List.mem_cons.1 hsecond with rfl | hsecond
      · exact absurd hinnermost.standsOn (by simp [hinnermost'.alone first hfirst])
      · obtain ⟨left, hleft, hfirst⟩ := List.mem_flatMap.1 hfirst
        obtain ⟨right, hright, hsecond⟩ := List.mem_flatMap.1 hsecond
        have hinner : ∀ other ∈ visit.inner (infoOf parsed), other ∈ visits parsed :=
          fun other hother =>
          mem_visits_of_mem_inner hvisit hother
        obtain rfl := h.eq_of_standsOn hinner hmembers hleft hright hfirst hsecond
          hinnermost.standsOn
          hinnermost'.standsOn
        exact ih left hleft (hinner left hleft) ((List.pairwise_flatMap.1 hmembers).1 left hleft)
          hfirst hsecond

theorem ProperlyNested.innermost_unique (h : ProperlyNested parsed)
    (hfirst : Innermost parsed line first)
    (hsecond : Innermost parsed line second) : first = second := by
  obtain ⟨left, hleft, hfirstWalk⟩ := List.mem_flatMap.1 hfirst.mem
  obtain ⟨right, hright, hsecondWalk⟩ := List.mem_flatMap.1 hsecond.mem
  obtain rfl := h.eq_of_standsOn (fun visit =>
    mem_visits_of_mem_roots) h.topLevel hleft hright hfirstWalk
    hsecondWalk hfirst.standsOn hsecond.standsOn
  exact h.innermost_unique_in (mem_visits_of_mem_roots hleft)
    ((List.pairwise_flatMap.1 h.topLevel).1 left hleft)
    hfirstWalk hsecondWalk hfirst hsecond

/-- **The innermost declaration of a line is the last one that is met on it**, if the declarations
are properly nested. -/
theorem ProperlyNested.innermost_iff (h : ProperlyNested parsed) :
    Innermost parsed line visit ↔ (declarationsOn parsed line).getLast? = some visit := by
  constructor
  · intro hinnermost
    have hmem : visit ∈ declarationsOn parsed line :=
      List.mem_filter.2 ⟨hinnermost.mem, hinnermost.standsOn⟩
    obtain ⟨last, hlast⟩ := Option.ne_none_iff_exists'.1
      (mt List.getLast?_eq_none_iff.1 (List.ne_nil_of_mem hmem))
    obtain rfl := h.innermost_unique hinnermost (innermost_of_getLast? hlast)
    exact hlast
  · exact innermost_of_getLast?

end BranchCover.Build
