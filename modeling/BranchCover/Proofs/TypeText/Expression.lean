import BranchCover.Proofs.Text.Scan
import BranchCover.Proofs.Text.Word
import BranchCover.TypeText

/-!
# Types as they are written

A type is a dotted name with arguments, a type in parentheses, or a function type. Any but a
function type can have question marks behind it: behind a function type they belong to its result.

* `TypeExpr`: the types.
* `TypeExpr.text`: a type as it is written, with a comma and a blank between arguments.
* `TypeExpr.HasArrow`: the types with a function type inside.
* `applied`: a name with the texts of its arguments; `base_applied`: what is read as the name.
* `withoutMarks_text`, `base_named`: what the question marks and the name of a type are.
-/

namespace BranchCover

/-- A dotted name: its last segment, and the segments before it. -/
structure DottedName where
  qualifier : List (List Char) := []
  last : List Char
  nonempty : ∀ segment ∈ last :: qualifier, segment ≠ []
  words : ∀ segment ∈ last :: qualifier, ∀ c ∈ segment, Text.isWord c = true

namespace DottedName

/-- A dotted name as it is written. -/
def chars (name : DottedName) : List Char := name.qualifier.flatMap (· ++ ['.']) ++ name.last

variable {name : DottedName} {c : Char}

theorem chars_ne_nil (name : DottedName) : name.chars ≠ [] :=
  List.append_ne_nil_of_right_ne_nil _ (name.nonempty name.last List.mem_cons_self)

theorem isWord_or_dot_of_mem (h : c ∈ name.chars) : Text.isWord c = true ∨ c = '.' := by
  rcases List.mem_append.1 h with hqualifier | hlast
  · obtain ⟨segment, hsegment, hc⟩ := List.mem_flatMap.1 hqualifier
    rcases List.mem_append.1 hc with hc | hc
    · exact Or.inl (name.words segment (List.mem_cons_of_mem _ hsegment) c hc)
    · exact Or.inr (List.mem_singleton.1 hc)
  · exact Or.inl (name.words name.last List.mem_cons_self c hlast)

/-- No character of a name has a meaning in a type. -/
theorem notMem_chars {mark : Char} (h : Text.isWord mark = false) (hdot : mark ≠ '.') :
    mark ∉ name.chars := by
  intro hmem
  rcases isWord_or_dot_of_mem hmem with hword | rfl
  · exact absurd hword (by simp [h])
  · exact hdot rfl

theorem isBlank_of_mem (h : c ∈ name.chars) : Text.isBlank c = false := by
  rw [← Bool.not_eq_true]
  intro hblank
  exact notMem_chars (Text.isWord_of_isBlank hblank)
    (by rintro rfl; exact absurd hblank (by decide)) h

/-- The last segment of a name stands behind the last dot. -/
theorem afterLast_chars (name : DottedName) : Text.afterLast '.' name.chars = name.last := by
  have hlast : '.' ∉ name.last := fun h => absurd (name.words _ List.mem_cons_self _ h) (by decide)
  refine Text.afterLast_eq_iff.2 ⟨hlast, ?_⟩
  rcases List.eq_nil_or_concat name.qualifier with hnone | ⟨before, segment, hqualifier⟩
  · exact Or.inl (by rw [chars, hnone, List.flatMap_nil, List.nil_append])
  · refine Or.inr ⟨before.flatMap (· ++ ['.']) ++ segment, ?_⟩
    rw [chars, hqualifier]
    simp

end DottedName

/-- A type. -/
inductive TypeExpr where
  /-- A name with type arguments, and question marks. -/
  | named (name : DottedName) (arguments : List TypeExpr) (marks : ℕ)
  /-- A type in parentheses, and question marks. -/
  | wrapped (inner : TypeExpr) (marks : ℕ)
  /-- A function type. -/
  | arrow (parameters : List TypeExpr) (result : TypeExpr)

namespace TypeExpr

/-- What holds of every type if it holds of one whose parts it holds of. -/
@[elab_as_elim]
theorem parts_induction {motive : TypeExpr → Prop}
    (named : ∀ name arguments marks, (∀ argument ∈ arguments, motive argument) →
      motive (.named name arguments marks))
    (wrapped : ∀ inner marks, motive inner → motive (.wrapped inner marks))
    (arrow : ∀ parameters result, (∀ parameter ∈ parameters, motive parameter) → motive result →
      motive (.arrow parameters result)) (type : TypeExpr) : motive type := by
  match type with
  | .named name arguments marks =>
    refine named name arguments marks fun argument hargument => ?_
    have hsize : sizeOf argument < sizeOf arguments := List.sizeOf_lt_of_mem hargument
    exact parts_induction named wrapped arrow argument
  | .wrapped inner marks => exact wrapped inner marks (parts_induction named wrapped arrow inner)
  | .arrow parameters result =>
    refine arrow parameters result (fun parameter hparameter =>
      ?_) (parts_induction named wrapped arrow result)
    have hsize : sizeOf parameter < sizeOf parameters := List.sizeOf_lt_of_mem hparameter
    exact parts_induction named wrapped arrow parameter
termination_by sizeOf type
decreasing_by
  all_goals
    simp only [TypeExpr.named.sizeOf_spec, TypeExpr.wrapped.sizeOf_spec, TypeExpr.arrow.sizeOf_spec]
    omega

/-! ### How types are written -/

/-- Texts with a comma and a blank between them. -/
def listed (texts : List (List Char)) : List Char := [',', ' '].intercalate texts

mutual

/-- A type as it is written. -/
def chars : TypeExpr → List Char
  | .named name arguments marks =>
    name.chars ++ (if arguments.isEmpty then []
      else '<' :: (listed (charsOf arguments) ++ ['>'])) ++
      List.replicate marks '?'
  | .wrapped inner marks => '(' :: (inner.chars ++ ')' :: List.replicate marks '?')
  | .arrow parameters result =>
    '(' :: (listed (charsOf parameters) ++ ')' :: ' ' :: '-' :: '>' :: ' ' :: result.chars)

/-- Types as they are written. -/
def charsOf : List TypeExpr → List (List Char)
  | [] => []
  | type :: rest => type.chars :: charsOf rest

end

/-- A type as it is written. -/
def text (type : TypeExpr) : String := String.ofList type.chars

@[simp] theorem toList_text (type : TypeExpr) : type.text.toList = type.chars :=
  String.toList_ofList

@[simp] theorem charsOf_eq_map (types : List TypeExpr) : charsOf types = types.map chars := by
  induction types with
  | nil => rfl
  | cons type rest ih => rw [charsOf, ih, List.map_cons]

/-! ### Lists of types -/

theorem listed_cons_cons (first second : List Char) (rest : List (List Char)) :
    listed (first :: second :: rest) = first ++ [',', ' '] ++ listed (second :: rest) :=
  List.intercalate_cons_cons ..

@[simp] theorem listed_singleton (text : List Char) : listed [text] = text :=
  List.intercalate_singleton

/-- A character of a list stands in one of the texts or between two. -/
theorem mem_listed {texts : List (List Char)} {c : Char} (h : c ∈ listed texts) :
    c = ',' ∨ c = ' ' ∨ ∃ text ∈ texts, c ∈ text := by
  induction texts with
  | nil => cases h
  | cons first rest ih =>
    cases rest with
    | nil => exact Or.inr (Or.inr ⟨first, List.mem_cons_self, by simpa using h⟩)
    | cons second rest =>
      rw [listed_cons_cons, List.mem_append, List.mem_append] at h
      rcases h with (hfirst | hmark) | hrest
      · exact Or.inr (Or.inr ⟨first, List.mem_cons_self, hfirst⟩)
      · simp only [List.mem_cons, List.not_mem_nil, or_false] at hmark
        exact hmark.imp_right Or.inl
      · exact (ih hrest).imp_right (Or.imp_right fun ⟨text, htext, hc⟩ =>
          ⟨text, List.mem_cons_of_mem _ htext, hc⟩)

theorem getLast?_listed {texts : List (List Char)} {c : Char}
    (h : (listed texts).getLast? = some c) :
    c = ' ' ∨ ∃ text ∈ texts, text.getLast? = some c := by
  induction texts with
  | nil => cases h
  | cons first rest ih =>
    cases rest with
    | nil => exact Or.inr ⟨first, List.mem_cons_self, by simpa using h⟩
    | cons second rest =>
      rw [listed_cons_cons, List.getLast?_append] at h
      rcases Option.or_eq_some_iff.1 h with hrest | ⟨-, hmark⟩
      · exact (ih hrest).imp_right fun ⟨text, htext, hc⟩ => ⟨text, List.mem_cons_of_mem _ htext, hc⟩
      · rw [List.getLast?_append] at hmark
        exact Or.inl (Option.some.inj hmark).symm

theorem isInfix_listed {texts : List (List Char)} {text : List Char} (h : text ∈ texts) :
    text <:+: listed texts := by
  obtain ⟨before, after, rfl⟩ := List.append_of_mem h
  clear h
  induction before with
  | nil =>
    cases after with
    | nil => simp
    | cons second rest =>
      rw [List.nil_append, listed_cons_cons, List.append_assoc]
      exact List.infix_append' [] text _
  | cons first before ih =>
    obtain ⟨second, rest, hrest⟩ := List.exists_cons_of_ne_nil
      (by simp : before ++ text :: after ≠ [])
    rw [hrest] at ih
    rw [List.cons_append, hrest, listed_cons_cons]
    exact ih.trans (List.suffix_append _ _).isInfix

/-! ### Names with arguments -/

/-- A name as it is written with the texts of its arguments. -/
def applied (name : DottedName) (arguments : List (List Char)) : List Char :=
  name.chars ++ if arguments.isEmpty then [] else '<' :: (listed arguments ++ ['>'])

theorem applied_of_ne_nil (name : DottedName) {arguments : List (List Char)} (h : arguments ≠ []) :
    applied name arguments = name.chars ++ '<' :: (listed arguments ++ ['>']) := by
  rw [applied, if_neg (by simpa using h)]

theorem head?_applied (name : DottedName) (arguments : List (List Char)) :
    ∃ c, (applied name arguments).head? = some c ∧ Text.isBlank c = false ∧ c ≠ ',' := by
  obtain ⟨c, rest, hname⟩ := List.exists_cons_of_ne_nil name.chars_ne_nil
  have hmem : c ∈ name.chars := by simp [hname]
  refine ⟨c, by simp [applied, hname], DottedName.isBlank_of_mem hmem, ?_⟩
  rintro rfl
  exact DottedName.notMem_chars (by decide) (by decide) hmem

theorem getLast?_applied (name : DottedName) (arguments : List (List Char)) :
    ∃ c, (applied name arguments).getLast? = some c ∧ Text.isBlank c = false ∧ c ≠ '-' ∧ c ≠ '?' ∧
      c ≠ ')' := by
  by_cases hnone : arguments = []
  · have hchars : applied name arguments = name.chars := by simp [applied, hnone]
    have hlast := List.getLast?_eq_some_getLast name.chars_ne_nil
    have hmem := List.getLast_mem name.chars_ne_nil
    have hne : ∀ mark, Text.isWord mark = false → mark ≠ '.' →
        name.chars.getLast name.chars_ne_nil ≠ mark := by
      rintro mark hword hdot rfl
      exact DottedName.notMem_chars hword hdot hmem
    exact ⟨_, (congrArg List.getLast? hchars).trans hlast, DottedName.isBlank_of_mem hmem,
      hne '-' (by decide) (by decide), hne '?' (by decide) (by decide),
      hne ')' (by decide) (by decide)⟩
  · refine ⟨'>', ?_, by decide, by decide, by decide, by decide⟩
    rw [applied_of_ne_nil name hnone, ← List.cons_append, ← List.append_assoc, List.getLast?_concat]

theorem getLast?_applied_marks (name : DottedName) (arguments : List (List Char)) (marks : ℕ) :
    ∃ c, (applied name arguments ++ List.replicate marks '?').getLast? = some c ∧
      Text.isBlank c = false := by
  cases marks with
  | zero =>
    obtain ⟨c, hlast, hblank, -⟩ := getLast?_applied name arguments
    exact ⟨c, by rw [List.replicate_zero, List.append_nil, hlast], hblank⟩
  | succ marks =>
    refine ⟨'?', ?_, by decide⟩
    rw [List.replicate_succ', ← List.append_assoc, List.getLast?_concat]

theorem trim_applied_marks (name : DottedName) (arguments : List (List Char)) (marks : ℕ) :
    Text.trim (applied name arguments ++ List.replicate marks '?') =
      applied name arguments ++ List.replicate marks '?' := by
  obtain ⟨first, hfirst, hblank, -⟩ := head?_applied name arguments
  obtain ⟨last, hlast, hblank'⟩ := getLast?_applied_marks name arguments marks
  exact Text.trim_of_ends (by rw [List.head?_append, hfirst, Option.some_or]) hlast hblank hblank'

theorem withoutMarks_applied (name : DottedName) (arguments : List (List Char)) (marks : ℕ) :
    TypeText.withoutMarks (String.ofList (applied name arguments ++ List.replicate marks '?')) =
      applied name arguments := by
  obtain ⟨c, hlast, -, -, hmark, -⟩ := getLast?_applied name arguments
  rw [TypeText.withoutMarks, String.toList_ofList, trim_applied_marks]
  refine Text.dropEndWhile_append_eq (fun d hd => by simp [List.eq_of_mem_replicate hd]) fun d hd =>
    ?_
  obtain rfl := Option.some.inj (hlast.symm.trans hd)
  simpa using hmark

/-- **What is read as the name is the last segment of the dotted name.** -/
theorem base_applied (name : DottedName) (arguments : List (List Char)) (marks : ℕ) :
    TypeText.base (String.ofList (applied name arguments ++ List.replicate marks '?')) =
      String.ofList name.last := by
  have hchars : ∀ c ∈ name.chars, (c != '<') = true := by
    rintro c hc
    rw [bne_iff_ne]
    rintro rfl
    exact DottedName.notMem_chars (by decide) (by decide) hc
  have hname : (applied name arguments).takeWhile (· != '<') = name.chars := by
    refine Text.takeWhile_append_eq hchars fun c hc => ?_
    split_ifs at hc
    · cases hc
    · obtain rfl := Option.some.inj hc
      rfl
  have htrim : Text.trim name.last = name.last := by
    have hblank : ∀ c ∈ name.last, Text.isBlank c = false := fun c hc =>
      DottedName.isBlank_of_mem (List.mem_append_right _ hc)
    exact Text.trim_eq_self (fun c hc => hblank c (List.mem_of_head? hc)) fun c hc =>
      hblank c (List.mem_of_getLast? hc)
  have hbare : Text.trim (applied name arguments) = applied name arguments := by
    simpa using trim_applied_marks name arguments 0
  rw [TypeText.base, withoutMarks_applied, hbare, hname, DottedName.afterLast_chars, htrim]

/-! ### Types with function types -/

/-- The types with a function type inside. -/
inductive HasArrow : TypeExpr → Prop
  | argument {name : DottedName} {arguments : List TypeExpr} {marks : ℕ} {argument : TypeExpr}
    (hmem : argument ∈ arguments) (h : HasArrow argument) : HasArrow (.named name arguments marks)
  | wrapped {inner : TypeExpr} {marks : ℕ} (h : HasArrow inner) : HasArrow (.wrapped inner marks)
  | arrow (parameters : List TypeExpr) (result : TypeExpr) : HasArrow (.arrow parameters result)

variable {type : TypeExpr}

theorem chars_eq_applied (name : DottedName) (arguments : List TypeExpr) (marks : ℕ) :
    (named name arguments marks).chars =
      applied name (arguments.map chars) ++ List.replicate marks '?' := by
  simp [chars, applied]

/-- What is written between the name and the question marks of a type. -/
theorem chars_named (name : DottedName) {arguments : List TypeExpr} (h : arguments ≠ [])
    (marks : ℕ) :
    (named name arguments marks).chars =
      name.chars ++ '<' :: (listed (arguments.map chars) ++ ['>']) ++ List.replicate marks '?' := by
  rw [chars, charsOf_eq_map, if_neg (by simpa using h)]

theorem chars_arrow (parameters : List TypeExpr) (result : TypeExpr) :
    (arrow parameters result).chars =
    '(' :: (listed (parameters.map chars) ++ [')']) ++ ' ' :: '-' :: '>' :: ' ' ::
      result.chars := by
  rw [chars, charsOf_eq_map]
  simp

theorem hasArrow_of_mem_dash (h : '-' ∈ type.chars) : type.HasArrow := by
  induction type using parts_induction with
  | named name arguments marks ih =>
    have hname : '-' ∉ name.chars := DottedName.notMem_chars (by decide) (by decide)
    have hmarks : '-' ∉ List.replicate marks '?' := by simp
    rw [chars, charsOf_eq_map, List.mem_append, List.mem_append, or_iff_left hmarks,
      or_iff_right hname] at h
    split_ifs at h
    · cases h
    · have hlisted : '-' ∈ listed (arguments.map chars) := by simpa using h
      rcases mem_listed hlisted with hmark | hmark | ⟨text, htext, hmem⟩
      · exact absurd hmark (by decide)
      · exact absurd hmark (by decide)
      · obtain ⟨argument, hargument, rfl⟩ := List.mem_map.1 htext
        exact .argument hargument (ih argument hargument hmem)
  | wrapped inner marks ih => exact .wrapped (ih (by simpa [chars] using h))
  | arrow parameters result _ _ => exact .arrow parameters result

theorem HasArrow.isInfix_chars (h : type.HasArrow) : ['-', '>'] <:+: type.chars := by
  induction h with
  | @argument name arguments marks argument hmem _ ih =>
    rw [chars_named name (List.ne_nil_of_mem hmem)]
    refine (ih.trans (isInfix_listed (List.mem_map_of_mem hmem))).trans ?_
    exact ⟨name.chars ++ ['<'], '>' :: List.replicate marks '?', by simp⟩
  | @wrapped inner marks _ ih =>
    exact ih.trans ⟨['('], ')' :: List.replicate marks '?', by simp [chars]⟩
  | arrow parameters result =>
    exact ⟨'(' :: (listed (parameters.map chars) ++ [')', ' ']), ' ' :: result.chars,
      by simp [chars]⟩

/-- **A type has an arrow in its text exactly if it has a function type inside.** -/
theorem isInfix_chars_iff : ['-', '>'] <:+: type.chars ↔ type.HasArrow :=
  ⟨fun h => hasArrow_of_mem_dash (h.subset List.mem_cons_self), HasArrow.isInfix_chars⟩

/-! ### Question marks -/

/-- A type without the question marks at its end. -/
def unmarked : TypeExpr → TypeExpr
  | .named name arguments _ => .named name arguments 0
  | .wrapped inner _ => .wrapped inner 0
  | .arrow parameters result => .arrow parameters result.unmarked

/-- Whether a type has a parenthesis at its end, question marks aside. -/
def Closes : TypeExpr → Prop
  | .named .. => False
  | .wrapped .. => True
  | .arrow _ result => result.Closes

theorem chars_eq_unmarked (type : TypeExpr) :
    ∃ marks, type.chars = type.unmarked.chars ++ List.replicate marks '?' := by
  induction type using parts_induction with
  | named name arguments marks _ => exact ⟨marks, by simp [unmarked, chars]⟩
  | wrapped inner marks _ => exact ⟨marks, by simp [unmarked, chars]⟩
  | arrow parameters result _ ih =>
    obtain ⟨marks, hmarks⟩ := ih
    refine ⟨marks, ?_⟩
    rw [chars, hmarks, unmarked, chars]
    simp

/-- The last character of a type without question marks behind it. -/
theorem getLast?_unmarked (type : TypeExpr) : ∃ c, type.unmarked.chars.getLast? = some c ∧
    Text.isBlank c = false ∧ c ≠ '-' ∧ c ≠ '?' ∧ (c = ')' ↔ type.Closes) := by
  induction type using parts_induction with
  | named name arguments marks _ =>
    obtain ⟨c, hlast, hblank, hdash, hmark, hclose⟩ := getLast?_applied name (arguments.map chars)
    refine ⟨c, ?_, hblank, hdash, hmark, iff_of_false hclose id⟩
    rw [unmarked, chars_eq_applied, List.replicate_zero, List.append_nil, hlast]
  | wrapped inner marks _ =>
    refine ⟨')', ?_, by decide, by decide, by decide, iff_of_true rfl trivial⟩
    rw [unmarked, chars, List.replicate_zero, ← List.cons_append, List.getLast?_concat]
  | arrow parameters result _ ih =>
    obtain ⟨c, hlast, hc⟩ := ih
    refine ⟨c, ?_, hc⟩
    have hparts : (unmarked (.arrow parameters result)).chars =
        '(' :: (listed (parameters.map chars) ++ [')', ' ', '-', '>', ' ']) ++
          result.unmarked.chars := by
      simp [unmarked, chars]
    rw [hparts, List.getLast?_append, hlast]
    rfl

/-- The first character of a type. -/
theorem head?_chars (type : TypeExpr) : ∃ c, type.chars.head? = some c ∧ Text.isBlank c = false ∧
    c ≠ ',' := by
  cases type with
  | named name arguments marks =>
    obtain ⟨c, hhead, hc⟩ := head?_applied name (arguments.map chars)
    exact ⟨c, by rw [chars_eq_applied, List.head?_append, hhead, Option.some_or], hc⟩
  | wrapped inner marks => exact ⟨'(', rfl, by decide, by decide⟩
  | arrow parameters result => exact ⟨'(', rfl, by decide, by decide⟩

/-- The last character of a type. -/
theorem getLast?_chars (type : TypeExpr) :
    ∃ c, type.chars.getLast? = some c ∧ Text.isBlank c = false ∧ c ≠ '-' := by
  obtain ⟨marks, hmarks⟩ := chars_eq_unmarked type
  obtain ⟨c, hlast, hblank, hdash, -⟩ := getLast?_unmarked type
  cases marks with
  | zero => exact ⟨c, by rw [hmarks, List.replicate_zero, List.append_nil, hlast], hblank, hdash⟩
  | succ marks =>
    refine ⟨'?', ?_, by decide, by decide⟩
    rw [hmarks, List.replicate_succ', ← List.append_assoc, List.getLast?_concat]

theorem trim_chars (type : TypeExpr) : Text.trim type.chars = type.chars := by
  obtain ⟨first, hfirst, hblank, -⟩ := head?_chars type
  obtain ⟨last, hlast, hblank', -⟩ := getLast?_chars type
  exact Text.trim_of_ends hfirst hlast hblank hblank'

/-- **A type without the question marks at its end.** -/
theorem withoutMarks_text (type : TypeExpr) :
    TypeText.withoutMarks type.text = type.unmarked.chars := by
  obtain ⟨marks, hmarks⟩ := chars_eq_unmarked type
  obtain ⟨c, hlast, -, -, hmark, -⟩ := getLast?_unmarked type
  rw [TypeText.withoutMarks, toList_text, trim_chars, hmarks]
  refine Text.dropEndWhile_append_eq (fun d hd => by simp [List.eq_of_mem_replicate hd]) fun d hd =>
    ?_
  obtain rfl := Option.some.inj (hlast.symm.trans hd)
  simpa using hmark

/-! ### Names -/

/-- **The name of a type is the last segment of its dotted name.** -/
theorem base_named (name : DottedName) (arguments : List TypeExpr) (marks : ℕ) :
    TypeText.base (named name arguments marks).text = String.ofList name.last := by
  rw [text, chars_eq_applied, base_applied]

end TypeExpr

end BranchCover
