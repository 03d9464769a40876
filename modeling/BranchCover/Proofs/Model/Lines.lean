import BranchCover.Proofs.Model.LineTable
import BranchCover.Proofs.Model.Visit
import BranchCover.Proofs.Text.Lines

/-!
# The lines of a file

The lines of a file are counted on its characters, and the line of a construct on the bytes before
it. Both counts agree, so every record is on a line that the table of lines knows, and what is
written into the contexts of the lines is neither lost nor repeated.

* `lineCount`, `byteLine`: the lines of a text, and the line of one of its bytes.
* `HasLinesOf`: a record is on the lines of the construct that it is made from.
* `noted`, `foldl_note`: findings change the context of each line by itself.
* `Adds`: what findings add to the context of a line.
* `lineContexts_build`: the lines of a file as a whole.
-/

namespace BranchCover.Build

/-! ### Counting lines -/

/-- How many lines a text has: one more than it has line feeds. -/
def lineCount (content : String) : ℕ := content.toList.count '\n' + 1

/-- The line of a byte: one more than there are line feeds among the bytes before it. -/
def byteLine (content : String) (position : Int) : ℕ :=
  ((Utf8.encode content.toList).take position.toNat).count 10 + 1

/-- The line feeds before a position are counted among the bytes from a start on. -/
theorem length_takeWhile_newlineOffsets (bytes : List UInt8) (start : ℕ) (position : Int) :
    ((newlineOffsets start bytes).takeWhile fun (offset : ℕ) => offset < position).length =
      (bytes.take (position - start).toNat).count 10 := by
  induction bytes generalizing start with
  | nil => simp [newlineOffsets]
  | cons b rest ih =>
    rw [newlineOffsets]
    by_cases hstart : (start : Int) < position
    · have hnext : (position - start).toNat = (position - (start + 1 : ℕ)).toNat + 1 := by omega
      rw [hnext, List.take_succ_cons]
      by_cases hb : b = 10
      · rw [if_pos hb, List.takeWhile_cons_of_pos (by simpa using hstart), List.length_cons, ih, hb,
          List.count_cons_self]
      · rw [if_neg hb, ih, List.count_cons_of_ne (by simpa using hb)]
    · have hbefore : (position - start).toNat = 0 := by omega
      have hnext : (position - (start + 1 : ℕ)).toNat = 0 := by omega
      rw [hbefore, List.take_zero]
      by_cases hb : b = 10
      · rw [if_pos hb, List.takeWhile_cons_of_neg (by simpa using hstart)]
        rfl
      · rw [if_neg hb, ih, hnext, List.take_zero]

theorem lineOf_infoOf (parsed : ParsedFile) (position : Int) :
    (infoOf parsed).lineOf position = byteLine parsed.content position := by
  have hcount := length_takeWhile_newlineOffsets (Utf8.encode parsed.content.toList) 0 position
  rw [Int.natCast_zero, Int.sub_zero] at hcount
  show lineAt _ position = _
  rw [lineAt, hcount, byteLine]
  rfl

theorem byteLine_mono (content : String) {first second : Int} (h : first ≤ second) :
    byteLine content first ≤ byteLine content second := by
  have hle : first.toNat ≤ second.toNat := Int.toNat_le_toNat h
  exact Nat.succ_le_succ ((List.take_sublist_take_left hle).count_le 10)

theorem byteLine_le (content : String) (position : Int) :
    byteLine content position ≤ lineCount content := by
  rw [byteLine, lineCount, ← Utf8.count_newline_encode]
  exact Nat.succ_le_succ ((List.take_sublist _ _).count_le 10)

/-! ### The lines of records -/

/-- The lines of a record are those of the construct that it is made from. -/
def HasLinesOf (file : FileInfo) (label : SyntaxLabel) : Finding → Prop
  | .classDecl decl => (decl.line, decl.endLine) = lineSpan file label
  | .function decl _ => (decl.line, decl.endLine) = lineSpan file label
  | .variableDecl decl => decl.line = file.lineOf label.start
  | .branch branch _ => branch.line = file.lineOf label.start
  | .loop loop _ => loop.line = file.lineOf label.start
  | .call call => call.line = file.lineOf label.start
  | .reference reference => reference.line = file.lineOf label.start
  | .warning _ | .classLines .. => True

variable {file : FileInfo} {visit : Visit} {label : SyntaxLabel} {finding : Finding}
  {parsed : ParsedFile}

theorem lineSpan_functionOf (file : FileInfo) (position : Position) (label : SyntaxLabel)
    (members : List SyntaxLabel) :
    ((functionOf file position label members).line,
      (functionOf file position label members).endLine) =
      lineSpan file label := by
  unfold functionOf
  cases position.function with
  | some outer => rfl
  | none => cases position.className <;> rfl

theorem hasLinesOf_of_mem_ownFindings {position : Position} {next : ℕ} {parent : Option ℕ}
    (h : finding ∈ ownFindings file position next parent label) :
      HasLinesOf file label finding := by
  obtain ⟨kind, hkind⟩ : ∃ kind, label.kind = kind := ⟨_, rfl⟩
  simp only [ownFindings, hkind] at h
  cases kind with
  | classDecl => cases h
  | function => cases h
  | parameter => cases h
  | property =>
    split_ifs at h
    · cases h
    · obtain rfl := List.mem_singleton.1 h
      rfl
  | reference =>
    split_ifs at h
    · cases h
    · obtain rfl := List.mem_singleton.1 h
      rfl
  | whenEntry =>
    cases parent with
    | none =>
      obtain rfl := List.mem_singleton.1 h
      trivial
    | some parent =>
      obtain rfl := List.mem_singleton.1 h
      rfl
  | error =>
    obtain rfl := List.mem_singleton.1 h
    trivial
  | _ =>
    obtain rfl := List.mem_singleton.1 h
    rfl

/-- What a construct gives is on the lines of the construct that it is made from. -/
theorem hasLinesOf_of_mem_given (h : (label, finding) ∈ visit.given file) :
    HasLinesOf file label finding := by
  rcases List.mem_append.1 h with h | h
  · obtain ⟨other, hother, heq⟩ := List.mem_map.1 h
    obtain ⟨rfl, rfl⟩ := Prod.mk.inj heq
    rcases List.mem_append.1 hother with hheading | hclosing
    · unfold Visit.heading at hheading
      split at hheading
      · obtain rfl := List.mem_singleton.1 hheading
        trivial
      · obtain rfl := List.mem_singleton.1 hheading
        exact lineSpan_functionOf ..
      · exact hasLinesOf_of_mem_ownFindings hheading
    · unfold Visit.closing at hclosing
      split_ifs at hclosing
      · obtain rfl := List.mem_singleton.1 hclosing
        rfl
      · cases hclosing
  · unfold declared at h
    split_ifs at h
    · obtain ⟨other, -, heq⟩ := List.mem_map.1 h
      obtain ⟨rfl, rfl⟩ := Prod.mk.inj heq
      rfl
    · cases h

/-- A record is on the line on which the construct that it is made from starts, and that is a line
of the file. -/
def OnStartLine (parsed : ParsedFile) (finding : Finding) (line : Int) : Prop :=
  ∃ visit ∈ visits parsed, ∃ label, (label, finding) ∈ visit.given (infoOf parsed) ∧
    line = byteLine parsed.content label.start ∧ 1 ≤ line ∧ line ≤ lineCount parsed.content

/-- What is found in a file is made from a construct that is met, and is on its lines. -/
theorem exists_given_of_mem
    (h : finding ∈ findingsAll (infoOf parsed) {} 0 none .visit parsed.nodes) :
    ∃ visit ∈ visits parsed, ∃ label, (label, finding) ∈ visit.given (infoOf parsed) ∧
      HasLinesOf (infoOf parsed) label finding := by
  obtain ⟨visit, hvisit, hfinding⟩ := List.mem_flatMap.1 ((findings_perm parsed).mem_iff.1 h)
  obtain ⟨⟨label, other⟩, hgiven, rfl⟩ := List.mem_map.1 hfinding
  exact ⟨visit, hvisit, label, hgiven, hasLinesOf_of_mem_given hgiven⟩

theorem onStartLine_of_mem {line : Int}
    (h : finding ∈ findingsAll (infoOf parsed) {} 0 none .visit parsed.nodes)
    (hline : ∀ label, HasLinesOf (infoOf parsed) label finding →
      line = (infoOf parsed).lineOf label.start) :
    OnStartLine parsed finding line := by
  obtain ⟨visit, hvisit, label, hgiven, hlines⟩ := exists_given_of_mem h
  have hbyte := hline label hlines
  rw [lineOf_infoOf] at hbyte
  have hle := byteLine_le parsed.content label.start
  have hpos : 1 ≤ byteLine parsed.content label.start := Nat.succ_pos _
  exact ⟨visit, hvisit, label, hgiven, hbyte, by omega, by omega⟩

/-- A record with a last line ends on a line of the file, and not before it starts. -/
theorem endLine_of_mem {line last : Int}
    (h : finding ∈ findingsAll (infoOf parsed) {} 0 none .visit parsed.nodes)
    (hspan : ∀ label, HasLinesOf (infoOf parsed) label finding →
      (line, last) = lineSpan (infoOf parsed) label) :
    line ≤ last ∧ last ≤ lineCount parsed.content := by
  obtain ⟨visit, -, label, -, hlines⟩ := exists_given_of_mem h
  obtain ⟨hline, hlast⟩ := Prod.mk.inj (hspan label hlines)
  rw [lineOf_infoOf] at hline hlast
  have hmono := byteLine_mono parsed.content (Int.le_max_right (label.stop - 1) label.start)
  have hle := byteLine_le parsed.content (max (label.stop - 1) label.start)
  exact ⟨by omega, by omega⟩

theorem onStartLine_of_mem_classes {decl : ClassDecl}
    (h : decl ∈ (Model.build parsed).model.classes) :
    OnStartLine parsed (.classDecl decl) decl.line ∧
      decl.line ≤ decl.endLine ∧ decl.endLine ≤ lineCount parsed.content := by
  obtain ⟨finding, hfinding, hpick⟩ := List.mem_filterMap.1 h
  cases finding <;> cases hpick
  exact ⟨onStartLine_of_mem hfinding fun _ h => congrArg Prod.fst h,
    endLine_of_mem hfinding fun _ h => h⟩

theorem onStartLine_of_mem_functions {decl : FunctionDecl}
    (h : decl ∈ (Model.build parsed).model.functions) :
    (∃ className, OnStartLine parsed (.function decl className) decl.line) ∧
      decl.line ≤ decl.endLine ∧ decl.endLine ≤ lineCount parsed.content := by
  obtain ⟨finding, hfinding, hpick⟩ := List.mem_filterMap.1 h
  cases finding <;> cases hpick
  exact ⟨⟨_, onStartLine_of_mem hfinding fun _ h => congrArg Prod.fst h⟩,
    endLine_of_mem hfinding fun _ h => h⟩

theorem onStartLine_of_mem_variableDecls {decl : Variable}
    (h : decl ∈ (Model.build parsed).model.variableDecls) :
    OnStartLine parsed (.variableDecl decl) decl.line := by
  obtain ⟨finding, hfinding, hpick⟩ := List.mem_filterMap.1 h
  cases finding <;> cases hpick
  exact onStartLine_of_mem hfinding fun _ h => h

theorem onStartLine_of_mem_branches {branch : Branch}
    (h : branch ∈ (Model.build parsed).model.branches) :
    ∃ header, OnStartLine parsed (.branch branch header) branch.line := by
  obtain ⟨finding, hfinding, hpick⟩ := List.mem_filterMap.1 h
  cases finding <;> cases hpick
  exact ⟨_, onStartLine_of_mem hfinding fun _ h => h⟩

theorem onStartLine_of_mem_loops {loop : Loop} (h : loop ∈ (Model.build parsed).model.loops) :
    ∃ header, OnStartLine parsed (.loop loop header) loop.line := by
  obtain ⟨finding, hfinding, hpick⟩ := List.mem_filterMap.1 h
  cases finding <;> cases hpick
  exact ⟨_, onStartLine_of_mem hfinding fun _ h => h⟩

theorem onStartLine_of_mem_references {reference : Reference}
    (h : reference ∈ (Model.build parsed).model.references) :
    OnStartLine parsed (.reference reference) reference.line := by
  obtain ⟨finding, hfinding, hpick⟩ := List.mem_filterMap.1 h
  cases finding <;> cases hpick
  exact onStartLine_of_mem hfinding fun _ h => h

theorem onStartLine_of_mem_calls {call : FunctionCall}
    (h : call ∈ (Model.build parsed).model.calls) :
    OnStartLine parsed (.call call) call.line := by
  obtain ⟨finding, hfinding, hpick⟩ := List.mem_filterMap.1 h
  cases finding <;> cases hpick
  exact onStartLine_of_mem hfinding fun _ h => h

/-! ### What is written into the lines -/

/-- The reference that a finding records. -/
def findingReference? : Finding → Option Reference
  | .reference reference => some reference
  | _ => none

/-- The call that a finding records. -/
def findingCall? : Finding → Option FunctionCall
  | .call call => some call
  | _ => none

/-- A change of contexts that adds the references and calls of findings to their lines, and nothing
to other lines. -/
structure Adds (found : List Finding) (change : LineEntry → LineEntry) : Prop where
  place : ∀ entry, (change entry).1 = entry.1
  context : ∀ entry, (change entry).2.place = entry.2.place
  references : ∀ entry, (change entry).2.references =
    entry.2.references ++ (found.filterMap findingReference?).filter (·.line = entry.1.2)
  calls : ∀ entry, (change entry).2.calls =
    entry.2.calls ++ (found.filterMap findingCall?).filter (·.line = entry.1.2)

theorem Adds.append {first second : List Finding} {change other : LineEntry → LineEntry}
    (hfirst : Adds first change) (hsecond : Adds second other) :
    Adds (first ++ second) (other ∘ change) where
  place entry := (hsecond.place _).trans (hfirst.place entry)
  context entry := (hsecond.context _).trans (hfirst.context entry)
  references entry := by
    rw [Function.comp_apply, hsecond.references, hfirst.references, hfirst.place,
      List.filterMap_append, List.filter_append, List.append_assoc]
  calls entry := by
    rw [Function.comp_apply, hsecond.calls, hfirst.calls, hfirst.place, List.filterMap_append,
      List.filter_append, List.append_assoc]

/-- What a change leaves as it is that adds no reference and no call. -/
def Frames (context changed : LineContext) : Prop :=
  changed.place = context.place ∧ changed.references = context.references ∧
    changed.calls = context.calls

/-- Findings without references and calls change contexts in other ways only. -/
theorem adds_of_frame {found : List Finding} {change : LineEntry → LineEntry}
    (hreferences : found.filterMap findingReference? = [])
    (hcalls : found.filterMap findingCall? = [])
    (h : ∀ entry, (change entry).1 = entry.1 ∧ Frames entry.2 (change entry).2) :
    Adds found change where
  place entry := (h entry).1
  context entry := (h entry).2.1
  references entry := by rw [(h entry).2.2.1, hreferences, List.filter_nil, List.append_nil]
  calls entry := by rw [(h entry).2.2.2, hcalls, List.filter_nil, List.append_nil]

theorem adds_id {found : List Finding} (hreferences : found.filterMap findingReference? = [])
    (hcalls : found.filterMap findingCall? = []) : Adds found id :=
  adds_of_frame hreferences hcalls fun _ => ⟨rfl, rfl, rfl, rfl⟩

/-- The context of a line behind a finding. -/
def noted (entry : LineEntry) (finding : Finding) : LineEntry := (note [entry] finding).headD entry

/-- A finding changes each context by itself. -/
theorem note_eq_map (table : LineTable) (finding : Finding) :
    note table finding = table.map (noted · finding) := by
  cases finding with
  | warning warning => exact (List.map_id table).symm
  | classDecl decl => exact (List.map_id table).symm
  | function decl className => exact List.map_map
  | branch branch header =>
    cases header with
    | none => exact (List.map_id table).symm
    | some header => rfl
  | _ => rfl

/-- All findings together change each context by itself. -/
theorem foldl_note (found : List Finding) (table : LineTable) :
    found.foldl note table = table.map (found.foldl noted ·) := by
  induction found generalizing table with
  | nil => exact (List.map_id table).symm
  | cons finding found ih =>
    rw [List.foldl_cons, note_eq_map, ih, List.map_map]
    rfl

theorem frames_ite {p : Prop} [Decidable p] {context changed : LineContext}
    (h : Frames context changed) :
    Frames context (if p then changed else context) := by
  split_ifs
  · exact h
  · exact ⟨rfl, rfl, rfl⟩

/-- A finding adds the reference or the call that it is. -/
theorem adds_noted (finding : Finding) : Adds [finding] (noted · finding) := by
  cases finding with
  | warning warning => exact adds_id rfl rfl
  | classDecl decl => exact adds_id rfl rfl
  | classLines first last scope qualifiedName =>
    exact adds_of_frame rfl rfl fun _ => ⟨rfl, frames_ite ⟨rfl, rfl, rfl⟩⟩
  | function decl className =>
    refine adds_of_frame rfl rfl fun entry => ⟨rfl, ?_⟩
    simp only [noted, note, onLine, onLines, List.map_cons, List.headD_cons]
    split_ifs <;> exact ⟨rfl, rfl, rfl⟩
  | variableDecl decl => exact adds_of_frame rfl rfl fun _ => ⟨rfl, frames_ite ⟨rfl, rfl, rfl⟩⟩
  | branch branch header =>
    cases header with
    | none => exact adds_id rfl rfl
    | some header => exact adds_of_frame rfl rfl fun _ => ⟨rfl, frames_ite ⟨rfl, rfl, rfl⟩⟩
  | loop loop header => exact adds_of_frame rfl rfl fun _ => ⟨rfl, frames_ite ⟨rfl, rfl, rfl⟩⟩
  | call call =>
    refine ⟨fun _ => rfl, ?_, ?_, ?_⟩ <;> intro entry <;>
      simp only [noted, note, onLine, onLines, List.map_cons, List.headD_cons]
    · split_ifs <;> rfl
    · split_ifs <;> simp [findingReference?]
    · by_cases hline : call.line = entry.1.2
      · simp [findingCall?, hline]
      · rw [if_neg (by omega)]
        simp [findingCall?, hline]
  | reference reference =>
    refine ⟨fun _ => rfl, ?_, ?_, ?_⟩ <;> intro entry <;>
      simp only [noted, note, onLine, onLines, List.map_cons, List.headD_cons]
    · split_ifs <;> rfl
    · by_cases hline : reference.line = entry.1.2
      · simp [findingReference?, hline]
      · rw [if_neg (by omega)]
        simp [findingReference?, hline]
    · split_ifs <;> simp [findingCall?]

/-- Findings add the references and the calls among them. -/
theorem adds_foldl_noted (found : List Finding) : Adds found (found.foldl noted ·) := by
  induction found using List.reverseRecOn with
  | nil => exact adds_id rfl rfl
  | append_singleton found finding ih =>
    simp only [List.foldl_concat]
    exact ih.append (adds_noted finding)

/-! ### The table of lines -/

theorem places_emptyTable (path content : String) :
    (emptyTable path content.toList).places =
      (List.range' 1 (lineCount content)).map fun (line : ℕ) => (path, (line : Int)) := by
  refine List.ext_getElem ?_ fun i _ _ => ?_
  · simp [LineTable.places, emptyTable, Text.length_lines, lineCount]
  · simp [LineTable.places, emptyTable, Int.add_comm]

theorem of_mem_emptyTable {path : String} {content : List Char} {entry : LineEntry}
    (h : entry ∈ emptyTable path content) :
    entry.2.place = entry.1 ∧ entry.2.references = [] ∧ entry.2.calls = [] := by
  obtain ⟨i, hi, rfl⟩ := List.mem_mapIdx.1 h
  exact ⟨rfl, rfl, rfl⟩

/-- The table of a file is that of its lines, with what the findings change in each of them. -/
theorem lineContexts_eq (parsed : ParsedFile) :
    (Model.build parsed).model.lineContexts =
      (emptyTable parsed.path parsed.content.toList).map
        ((findingsAll (infoOf parsed) {} 0 none .visit parsed.nodes).foldl noted ·) := foldl_note ..

theorem places_build (parsed : ParsedFile) :
    (Model.build parsed).model.lineContexts.places =
      (List.range' 1 (lineCount parsed.content)).map fun (line : ℕ) =>
        (parsed.path, (line : Int)) := by
  rw [lineContexts_eq, ← places_emptyTable, LineTable.places, LineTable.places, List.map_map]
  exact List.map_congr_left fun entry _ => (adds_foldl_noted _).place entry

/-- The context that is kept for a line is about the line, and has the references and the calls on
it. -/
theorem of_mem_lineContexts {entry : LineEntry}
    (h : entry ∈ (Model.build parsed).model.lineContexts) :
    entry.2.place = entry.1 ∧
      entry.2.references = (Model.build parsed).model.references.filter (·.line = entry.1.2) ∧
      entry.2.calls = (Model.build parsed).model.calls.filter (·.line = entry.1.2) := by
  rw [lineContexts_eq] at h
  obtain ⟨empty, hempty, rfl⟩ := List.mem_map.1 h
  obtain ⟨hplace, hreferences, hcalls⟩ := of_mem_emptyTable hempty
  have hadds := adds_foldl_noted (findingsAll (infoOf parsed) {} 0 none .visit parsed.nodes)
  rw [hadds.context, hadds.references, hadds.calls, hadds.place, hplace, hreferences, hcalls,
    List.nil_append, List.nil_append]
  exact ⟨rfl, rfl, rfl⟩

/-- **The lines of a file.** The table knows the lines of the file, from the first to the last.
Every record is on the line on which its construct starts, and ends on no line before. And the
context that is kept for a line is about that line, and has the references and the calls of the
model that are on it, in their order. -/
theorem lineContexts_build (parsed : ParsedFile) :
    (Model.build parsed).model.lineContexts.places =
        (List.range' 1 (lineCount parsed.content)).map (fun (line : ℕ) =>
          (parsed.path, (line : Int))) ∧
      (∀ decl ∈ (Model.build parsed).model.classes, OnStartLine parsed (.classDecl decl) decl.line ∧
        decl.line ≤ decl.endLine ∧ decl.endLine ≤ lineCount parsed.content) ∧
      (∀ decl ∈ (Model.build parsed).model.functions,
        (∃ className, OnStartLine parsed (.function decl className) decl.line) ∧
          decl.line ≤ decl.endLine ∧ decl.endLine ≤ lineCount parsed.content) ∧
      (∀ decl ∈ (Model.build parsed).model.variableDecls,
        OnStartLine parsed (.variableDecl decl) decl.line) ∧
      (∀ branch ∈ (Model.build parsed).model.branches,
        ∃ header, OnStartLine parsed (.branch branch header) branch.line) ∧
      (∀ loop ∈ (Model.build parsed).model.loops, ∃ header,
        OnStartLine parsed (.loop loop header) loop.line) ∧
      (∀ reference ∈ (Model.build parsed).model.references,
        OnStartLine parsed (.reference reference) reference.line) ∧
      (∀ call ∈ (Model.build parsed).model.calls, OnStartLine parsed (.call call) call.line) ∧
      ∀ entry ∈ (Model.build parsed).model.lineContexts, entry.2.place = entry.1 ∧
        entry.2.references = (Model.build parsed).model.references.filter (·.line = entry.1.2) ∧
        entry.2.calls = (Model.build parsed).model.calls.filter (·.line = entry.1.2) :=
  ⟨places_build parsed, fun _ => onStartLine_of_mem_classes, fun _ => onStartLine_of_mem_functions,
    fun _ => onStartLine_of_mem_variableDecls, fun _ => onStartLine_of_mem_branches,
    fun _ => onStartLine_of_mem_loops, fun _ => onStartLine_of_mem_references,
    fun _ => onStartLine_of_mem_calls, fun _ => of_mem_lineContexts⟩

/-- A use of a name, from one byte to another. -/
def useTree (name : String) (start stop : Int) : SyntaxTree :=
  .node { kind := .reference, start, stop, name := some name } []

/-- A file of two lines and four bytes, with uses whose positions are reversed, on the line feed,
and before and behind the file. -/
def accentFile : ParsedFile where
  path := "a.kt"
  content := "é\nx"
  nodes := [useTree "a" 3 0, useTree "b" 2 99, useTree "c" (-5) 1, useTree "d" 99 100]

/-- The first and the last use are on the second line. -/
theorem lineContexts_build_accent :
    (Model.build accentFile).model.lineContexts.places = [("a.kt", 1), ("a.kt", 2)] ∧
      (∃ reference ∈ (Model.build accentFile).model.references, reference.name = "d" ∧
        OnStartLine accentFile (.reference reference) reference.line) ∧
      ∃ entry ∈ (Model.build accentFile).model.lineContexts, entry.2.line = 2 ∧
        entry.2.references.map (·.name) = ["a", "d"] := by
  obtain ⟨hplaces, -, -, -, -, -, hreferences, -, hcontexts⟩ := lineContexts_build accentFile
  have hlines : (Model.build accentFile).model.lineContexts.places = [("a.kt", 1), ("a.kt", 2)] :=
    hplaces.trans (by decide)
  have hlast : ("a.kt", 2) ∈ (Model.build accentFile).model.lineContexts.places := by simp [hlines]
  obtain ⟨entry, hentry, hplace⟩ := List.mem_map.1 hlast
  obtain ⟨hcontext, hnames, -⟩ := hcontexts entry hentry
  have hline : entry.2.line = 2 := congrArg Prod.snd (hcontext.trans hplace)
  refine ⟨hlines, ⟨_, List.mem_of_getLast? rfl, rfl, hreferences _ (List.mem_of_getLast? rfl)⟩,
    entry, hentry, hline, ?_⟩
  rw [hnames, hplace]
  decide

end BranchCover.Build
