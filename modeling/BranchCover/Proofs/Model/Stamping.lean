import BranchCover.Proofs.Model.Lines
import BranchCover.Proofs.Model.Nesting

/-!
# The scopes of lines

Each class and each function writes its scope over the lines that it stands on, before the
declarations inside it do. So a line keeps what the last of them says. The name of a function stays
where a class is written over it.

* `Mark`: what declarations write into the context of a line.
* `markOf_noted`, `markOf_foldl_noted`: what one finding and what all findings write.
* `lineContext?_build`: a line is marked by the last declaration on it, which is the innermost one.
-/

namespace BranchCover.Build

/-- What declarations write into the context of a line. -/
structure Mark where
  scope : String
  currentClass : Option String
  currentFunction : Option String

/-- What is written into a context. -/
def markOf (context : LineContext) : Mark where
  scope := context.scope
  currentClass := context.currentClass
  currentFunction := context.currentFunction

/-- A declaration is written over what stands there. A class leaves the name of a function as it
is. -/
def Mark.stamped (mark : Mark) (stamp : Stamp) : Mark where
  scope := stamp.scope
  currentClass := stamp.currentClass
  currentFunction := stamp.function?.or mark.currentFunction

/-- The last of several declarations is what stands there in the end. -/
theorem Mark.foldl_stamped (mark : Mark) (stamps : List Stamp) :
    stamps.foldl Mark.stamped mark =
      { scope := (stamps.getLast?.map (·.scope)).getD mark.scope
        currentClass := (stamps.getLast?.map (·.currentClass)).getD mark.currentClass
        currentFunction := (stamps.filterMap (·.function?)).getLast?.or mark.currentFunction } := by
  induction stamps using List.reverseRecOn with
  | nil => rfl
  | append_singleton stamps stamp ih =>
    rw [List.foldl_concat, ih, Mark.stamped]
    cases hfunction : stamp.function? <;> simp [hfunction]

/-! ### What findings write -/

/-- What a finding says about its lines, if it is about a declaration. -/
def findingStamp? : Finding → Option Stamp
  | .classLines first last scope qualifiedName =>
    some { first, last, scope, currentClass := some qualifiedName, function? := none }
  | .function decl className =>
    some { first := decl.line, last := decl.endLine, scope := decl.scope, currentClass := className,
           function? := some decl.name }
  | _ => none

theorem filterMap_heading_stamp (file : FileInfo) (visit : Visit) :
    (visit.heading file).filterMap findingStamp? = (visit.stamp? file).toList := by
  obtain ⟨kind, hkind⟩ : ∃ kind, visit.kind = kind := ⟨_, rfl⟩
  have hlabel : visit.tree.label.kind = kind := hkind
  unfold Visit.heading Visit.stamp?
  cases kind with
  | whenEntry => cases visit.parent <;> simp [hkind, ownFindings, hlabel, findingStamp?]
  | _ => simp [hkind, ownFindings, hlabel, findingStamp?]

/-- What is written into a context, if what is changed on some lines is nothing that declarations
write. -/
theorem markOf_onLines {p : Prop} [Decidable p] {changed context : LineContext}
    (h : markOf changed = markOf context) :
    markOf (if p then changed else context) = markOf context := by
  split_ifs
  · exact h
  · rfl

/-- A declaration on some lines is written into the context of a line among them. -/
theorem foldl_stamped_singleton (entry : LineEntry) (stamp : Stamp) :
    ([stamp].filter (·.covers entry.1.2)).foldl Mark.stamped (markOf entry.2) =
      if stamp.first ≤ entry.1.2 ∧ entry.1.2 ≤ stamp.last then (markOf entry.2).stamped stamp
      else markOf entry.2 := by
  by_cases hline : stamp.first ≤ entry.1.2 ∧ entry.1.2 ≤ stamp.last
  · rw [if_pos hline, List.filter_cons_of_pos (by simpa [Stamp.covers] using hline)]
    rfl
  · rw [if_neg hline, List.filter_cons_of_neg (by simpa [Stamp.covers] using hline)]
    rfl

/-- A finding about a declaration that stands on a line is written into the context of the line. -/
theorem markOf_noted (entry : LineEntry) (finding : Finding) :
    markOf (noted entry finding).2 =
      (([finding].filterMap findingStamp?).filter (·.covers entry.1.2)).foldl Mark.stamped
        (markOf entry.2) := by
  cases finding with
  | classLines first last scope qualifiedName =>
    refine Eq.trans ?_ (foldl_stamped_singleton entry _).symm
    exact apply_ite markOf ..
  | function decl className =>
    refine Eq.trans ?_ (foldl_stamped_singleton entry _).symm
    have hstamped := apply_ite markOf (decl.line ≤ entry.1.2 ∧ entry.1.2 ≤ decl.endLine)
      { entry.2 with
        scope := decl.scope, currentFunction := some decl.name, currentClass := className } entry.2
    -- behind it the parameters are added to the first line
    exact Eq.trans (markOf_onLines rfl) hstamped
  | branch branch header =>
    cases header with
    | none => rfl
    | some header => exact markOf_onLines rfl
  | warning warning => rfl
  | classDecl decl => rfl
  | _ => exact markOf_onLines rfl

/-- What findings write into a context is what the declarations among them that stand on its line
write. -/
theorem markOf_foldl_noted (found : List Finding) (entry : LineEntry) :
    markOf (found.foldl noted entry).2 =
      ((found.filterMap findingStamp?).filter (·.covers entry.1.2)).foldl Mark.stamped
        (markOf entry.2) := by
  induction found using List.reverseRecOn with
  | nil => rfl
  | append_singleton found finding ih =>
    rw [List.foldl_concat, markOf_noted, (adds_foldl_noted found).place, ih, List.filterMap_append,
      List.filter_append, List.foldl_append]

/-! ### The contexts of a file -/

/-- What the declarations on a line say about it, in the order in which they are met. -/
def stampsOn (parsed : ParsedFile) (line : Int) : List Stamp :=
  (declarationsOn parsed line).filterMap (Visit.stamp? (infoOf parsed))

variable {parsed : ParsedFile} {line : Int} {visit : Visit}

theorem filter_stamps (parsed : ParsedFile) (line : Int) :
    ((visits parsed).filterMap (Visit.stamp? (infoOf parsed))).filter (·.covers line) =
      stampsOn parsed line := by
  rw [stampsOn, declarationsOn, List.filter_filterMap, List.filterMap_filter]
  refine List.filterMap_congr fun visit _ => ?_
  rw [Visit.standsOn]
  cases visit.stamp? (infoOf parsed) <;> simp [Option.filter]

theorem markOf_of_mem_lineContexts {entry : LineEntry}
    (h : entry ∈ (Model.build parsed).model.lineContexts) :
    markOf entry.2 = (stampsOn parsed entry.1.2).foldl Mark.stamped
      { scope := Scope.global, currentClass := none, currentFunction := none } := by
  rw [lineContexts_eq] at h
  obtain ⟨empty, hempty, rfl⟩ := List.mem_map.1 h
  obtain ⟨i, hi, rfl⟩ := List.mem_mapIdx.1 hempty
  rw [markOf_foldl_noted, (adds_foldl_noted _).place,
    filterMap_findings (fun _ => rfl) (fun _ => rfl) (filterMap_heading_stamp (infoOf parsed)),
    filter_stamps]
  rfl

/-- The model has a context for each line of the file. -/
theorem exists_lineContext (hfirst : 1 ≤ line) (hlast : line ≤ lineCount parsed.content) :
    ∃ context, ((parsed.path, line), context) ∈ (Model.build parsed).model.lineContexts ∧
      (Model.build parsed).model.lineContext? parsed.path line = some context := by
  have hplace : (parsed.path, line) ∈ (Model.build parsed).model.lineContexts.places := by
    rw [places_build]
    exact List.mem_map.2 ⟨line.toNat, List.mem_range'_1.2 (by omega),
      by rw [Int.toNat_of_nonneg (by omega)]⟩
  obtain ⟨context, hcontext⟩ := LineTable.exists_get?_of_mem hplace
  exact ⟨context, LineTable.mem_of_get? hcontext, hcontext⟩

/-- What is said about a line last is said by the last declaration on it. -/
theorem getLast?_stampsOn (h : (declarationsOn parsed line).getLast? = some visit) :
    (stampsOn parsed line).getLast? = visit.stamp? (infoOf parsed) := by
  obtain ⟨before, hbefore⟩ := List.getLast?_eq_some_iff.1 h
  obtain ⟨stamp, hstamp⟩ := Visit.exists_stamp (innermost_of_getLast? h).standsOn
  rw [stampsOn, hbefore, List.filterMap_append, hstamp]
  simp [hstamp]

/-- **A line is marked by the last declaration on it**, and outside all declarations it is in the
global scope. The name on it is that of the last function. Where the declarations are properly
nested, the last declaration is the innermost one. -/
theorem lineContext?_build (parsed : ParsedFile) (line : Int) (hfirst : 1 ≤ line)
    (hlast : line ≤ lineCount parsed.content) :
    ∃ context, (Model.build parsed).model.lineContext? parsed.path line = some context ∧
      context.scope = ((stampsOn parsed line).getLast?.map (·.scope)).getD Scope.global ∧
      context.currentClass = (stampsOn parsed line).getLast?.bind (·.currentClass) ∧
      context.currentFunction = ((stampsOn parsed line).filterMap (·.function?)).getLast? ∧
      (ProperlyNested parsed → declarationsOn parsed line ≠ [] →
        ∃ visit stamp, (∀ other, Innermost parsed line other ↔ other = visit) ∧
          visit.stamp? (infoOf parsed) = some stamp ∧
          context.scope = stamp.scope ∧ context.currentClass = stamp.currentClass) := by
  obtain ⟨context, hmem, hcontext⟩ := exists_lineContext hfirst hlast
  have hmark := markOf_of_mem_lineContexts hmem
  rw [Mark.foldl_stamped] at hmark
  have hscope := congrArg Mark.scope hmark
  have hclass := congrArg Mark.currentClass hmark
  have hfunction := congrArg Mark.currentFunction hmark
  rw [Option.or_none] at hfunction
  refine ⟨context, hcontext, hscope, ?_, hfunction, ?_⟩
  · refine hclass.trans ?_
    cases (stampsOn parsed line).getLast? <;> rfl
  · intro hnested hne
    obtain ⟨visit, hvisit⟩ := Option.ne_none_iff_exists'.1 (mt List.getLast?_eq_none_iff.1 hne)
    obtain ⟨stamp, hstamp⟩ := Visit.exists_stamp (innermost_of_getLast? hvisit).standsOn
    rw [getLast?_stampsOn hvisit, hstamp] at hscope hclass
    refine ⟨visit, stamp, fun other => ?_, hstamp, hscope, hclass⟩
    rw [hnested.innermost_iff, hvisit, Option.some.injEq, eq_comm]

/-- A declaration of a kind, from one byte to another, with the constructs inside it. -/
def declarationTree (kind : NodeKind) (name : String) (start stop : Int)
    (children : List SyntaxTree) : SyntaxTree :=
  .node { kind, start, stop, name := some name } children

/-- A function `f` on all six lines of a file, with a class `A` on four of them, which has two
methods of one line. -/
def layeredFile : ParsedFile where
  path := "a.kt"
  content := "\n\n\n\n\n"
  nodes := [declarationTree .function "f" 0 6 [declarationTree .classDecl "A" 1 5
    [declarationTree .function "m" 2 3 [], declarationTree .function "n" 3 4 []]]]

/-- Behind the methods the fifth line is in the class, and still has the name of the function around
it. -/
theorem lineContext?_build_layered :
    (∃ context, (Model.build layeredFile).model.lineContext? "a.kt" 5 = some context ∧
      context.scope = "class:A" ∧ context.currentClass = some "A" ∧
      context.currentFunction = some "f") ∧
      ∃ visit stamp, (∀ other, Innermost layeredFile 5 other ↔ other = visit) ∧
        visit.stamp? (infoOf layeredFile) = some stamp ∧ stamp.scope = "class:A" := by
  obtain ⟨f, a, m, n, hroots, ⟨hf, ha, hm, hn⟩, ⟨hfstamp, hastamp, hmstamp, hnstamp⟩, hfkind,
      hakind, hmkind, hnkind⟩ :
      ∃ f a m n, roots layeredFile = [f] ∧
        (f.inner (infoOf layeredFile) = [a] ∧ a.inner (infoOf layeredFile) = [m, n] ∧
          m.inner (infoOf layeredFile) = [] ∧ n.inner (infoOf layeredFile) = []) ∧
        (f.stamp? (infoOf layeredFile) = some ⟨1, 6, "function:f", none, some "f"⟩ ∧
          a.stamp? (infoOf layeredFile) = some ⟨2, 5, "class:A", some "A", none⟩ ∧
          m.stamp? (infoOf layeredFile) = some ⟨3, 3, "method:A.m", some "A", some "m"⟩ ∧
          n.stamp? (infoOf layeredFile) = some ⟨4, 4, "method:A.n", some "A", some "n"⟩) ∧
        f.isDeclaration = true ∧ a.isDeclaration = true ∧ m.isDeclaration = true ∧
        n.isDeclaration = true :=
    ⟨_, _, _, _, rfl, ⟨rfl, rfl, rfl, rfl⟩, ⟨by rfl, by rfl, by rfl, by rfl⟩, rfl, rfl, rfl, rfl⟩
  have hvisits : visits layeredFile = [f, a, m, n] := by
    simp [visits, hroots, Visit.walk_eq _ f, Visit.walk_eq _ a, Visit.walk_eq _ m,
      Visit.walk_eq _ n, hf, ha, hm, hn]
  have hmembers : f.members (infoOf layeredFile) = [a] ∧ a.members (infoOf layeredFile) = [m, n] ∧
      m.members (infoOf layeredFile) = [] ∧ n.members (infoOf layeredFile) = [] := by
    simp [Visit.members, hf, ha, hm, hn, Visit.outermost_eq, hakind, hmkind, hnkind]
  have hlines : (∀ line, f.standsOn (infoOf layeredFile) line = true ↔ 1 ≤ line ∧ line ≤ 6) ∧
      (∀ line, a.standsOn (infoOf layeredFile) line = true ↔ 2 ≤ line ∧ line ≤ 5) ∧
      (∀ line, m.standsOn (infoOf layeredFile) line = true ↔ 3 ≤ line ∧ line ≤ 3) ∧
      (∀ line, n.standsOn (infoOf layeredFile) line = true ↔ 4 ≤ line ∧ line ≤ 4) := by
    simp [Visit.standsOn, Stamp.covers, hfstamp, hastamp, hmstamp, hnstamp]
  have hnested : ProperlyNested layeredFile := by
    refine ⟨?_, ?_, ?_⟩
    · simp [hroots, Visit.outermost_eq, hfkind, Apart]
    · have hclass : Apart (infoOf layeredFile) [a] := List.pairwise_singleton ..
      have hmethods : Apart (infoOf layeredFile) [m, n] := by
        refine List.pairwise_pair.2 fun line hline => ?_
        rw [hlines.2.2.1, hlines.2.2.2] at hline
        omega
      have hnone : Apart (infoOf layeredFile) [] := List.Pairwise.nil
      simp [hvisits, hmembers, hclass, hmethods, hnone]
    · have hinside : ∀ line,
          (a.standsOn (infoOf layeredFile) line = true →
            f.standsOn (infoOf layeredFile) line = true) ∧
            (m.standsOn (infoOf layeredFile) line = true →
              a.standsOn (infoOf layeredFile) line = true) ∧
            (n.standsOn (infoOf layeredFile) line = true →
              a.standsOn (infoOf layeredFile) line = true) := by
        simp only [hlines]
        omega
      simpa [hvisits, hmembers, hfkind, hakind, or_imp, forall_and] using hinside
  have hstands : declarationsOn layeredFile 5 = [f, a] := by
    simp [declarationsOn, hvisits, hlines]
  have hstamps : stampsOn layeredFile 5 =
      [⟨1, 6, "function:f", none, some "f"⟩, ⟨2, 5, "class:A", some "A", none⟩] := by
    simp [stampsOn, hstands, hfstamp, hastamp]
  obtain ⟨context, hcontext, hscope, hclass, hfunction, hinnermost⟩ :=
    lineContext?_build layeredFile 5 (by decide) (by decide)
  rw [hstamps] at hscope hclass hfunction
  obtain ⟨visit, stamp, hunique, hstamp, hcarried, -⟩ := hinnermost hnested (by simp [hstands])
  exact ⟨⟨context, hcontext, hscope, hclass, hfunction⟩, visit, stamp, hunique, hstamp,
    hcarried.symm.trans hscope⟩

end BranchCover.Build
