import BranchCover.Proofs.Text.Lines
import BranchCover.Proofs.TypeText.Arrow
import BranchCover.Proofs.TypeText.Expression

/-!
# The parts of a function type

The arrow of a function type is found, unless the type is in two pairs of parentheses, or its result
is in one: then the parentheses at its ends are not those of one pair. The parameters are counted by
their commas, and those in the arguments of a parameter count as well.

* `TypeExpr.Unread`: the types in which no arrow is found.
* `crosses_chars`: a scan for an arrow reads a type that is no function type, and any type in
  brackets.
* `placeholders`: how many parameters are counted.
* `functionParts_arrow`, `functionParts_wrapped`, `functionParts_unread`: the parts of a type.
-/

namespace BranchCover

namespace TypeExpr

/-- A function type, without parentheses around it. -/
def IsArrow : TypeExpr → Prop
  | .arrow .. => True
  | _ => False

/-- A type in which no arrow is found, although there may be some: a name, a type in parentheses
that is no function type, or a function type with a parenthesis at its end, of which no part is a
function type. -/
inductive Unread : TypeExpr → Prop
  | named (name : DottedName) (arguments : List TypeExpr) (marks : ℕ) :
      Unread (.named name arguments marks)
  | wrapped {inner : TypeExpr} (hinner : ¬inner.IsArrow) (marks : ℕ) : Unread (.wrapped inner marks)
  | arrow {parameters : List TypeExpr} {result : TypeExpr}
      (hparameters : ∀ parameter ∈ parameters, ¬parameter.IsArrow)
    (hcloses : result.Closes) (hresult : Unread result) : Unread (.arrow parameters result)

/-- How many parameters of a function type are counted: one for each and for each comma in it. -/
def placeholders : List TypeExpr → ℕ
  | [] => 0
  | first :: rest => first.chars.count ',' + 1 + placeholders rest

theorem length_le_placeholders (parameters : List TypeExpr) :
    parameters.length ≤ placeholders parameters := by
  induction parameters with
  | nil => exact Nat.zero_le _
  | cons first rest ih =>
    rw [placeholders, List.length_cons]
    omega

/-- As many parameters are counted as there are exactly if none has a comma. -/
theorem placeholders_eq_length_iff {parameters : List TypeExpr} :
    placeholders parameters = parameters.length ↔
    ∀ parameter ∈ parameters, ',' ∉ parameter.chars := by
  induction parameters with
  | nil => simp [placeholders]
  | cons first rest ih =>
    have hrest := length_le_placeholders rest
    rw [List.forall_mem_cons, ← ih, ← List.count_eq_zero, placeholders, List.length_cons]
    omega

end TypeExpr

namespace TypeText

open TypeExpr (listed)

variable {type inner result : TypeExpr} {types parameters : List TypeExpr} {text : List Char}
  {depth : Int}

/-! ### Scans of a type -/

theorem crosses_listed (h : ∀ type ∈ types, Crosses depth depth type.chars) :
    Crosses depth depth (listed (types.map TypeExpr.chars)) := by
  induction types with
  | nil => exact crosses_nil depth
  | cons first rest ih =>
    have hfirst := h first List.mem_cons_self
    cases rest with
    | nil => simpa using hfirst
    | cons second rest =>
      have hcomma : Crosses depth depth [',', ' '] := crosses_of_plain (by simp) depth
      have hrest := ih fun type htype => h type (List.mem_cons_of_mem _ htype)
      rw [List.map_cons, List.map_cons, TypeExpr.listed_cons_cons]
      exact (hfirst.append hcomma).append hrest

theorem crosses_name (name : DottedName) (depth : Int) : Crosses depth depth name.chars := by
  refine crosses_of_plain (fun c hc hmem => ?_) depth
  simp only [List.mem_cons, List.not_mem_nil, or_false] at hmem
  rcases hmem with rfl | rfl | rfl | rfl | rfl <;>
    exact DottedName.notMem_chars (by decide) (by decide) hc

theorem crosses_marks (marks : ℕ) (depth : Int) : Crosses depth depth (List.replicate marks '?') :=
  crosses_of_plain (fun c hc => by rw [List.eq_of_mem_replicate hc]; decide) depth

/-- **A scan for an arrow reads a type**: inside of brackets any, and outside of them one that is no
function type. -/
theorem crosses_chars (type : TypeExpr) {depth : Int} (h : 0 < depth ∨ depth = 0 ∧ ¬type.IsArrow) :
    Crosses depth depth type.chars := by
  -- the parts of a type in brackets of its own are one level deeper, where they may be function
  -- types
  induction type using TypeExpr.parts_induction generalizing depth with
  | named name arguments marks ih =>
    have hinside : Crosses (depth + 1) (depth + 1) (listed (arguments.map TypeExpr.chars)) :=
      crosses_listed fun argument hargument => ih argument hargument (Or.inl (by omega))
    have hlast : (listed (arguments.map TypeExpr.chars)).getLast? ≠ some '-' := by
      intro hdash
      rcases TypeExpr.getLast?_listed hdash with hblank | ⟨text, htext, hend⟩
      · exact absurd hblank (by decide)
      · obtain ⟨argument, -, rfl⟩ := List.mem_map.1 htext
        obtain ⟨c, hc, -, hne⟩ := TypeExpr.getLast?_chars argument
        exact hne (Option.some.inj (hc.symm.trans hend))
    rw [TypeExpr.chars, TypeExpr.charsOf_eq_map]
    refine Crosses.append ((crosses_name name depth).append ?_) (crosses_marks marks depth)
    split_ifs
    · exact crosses_nil depth
    · exact hinside.angled hlast
  | wrapped inner marks ih =>
    have hinside : Crosses (depth + 1) (depth + 1) inner.chars := ih (Or.inl (by omega))
    have hchars : (TypeExpr.wrapped inner marks).chars =
        '(' :: (inner.chars ++ [')']) ++ List.replicate marks '?' := by
      simp [TypeExpr.chars]
    rw [hchars]
    exact hinside.parenthesized.append (crosses_marks marks depth)
  | arrow parameters result ihparameters ihresult =>
    have hpos : 0 < depth := h.resolve_right fun houtside => houtside.2 trivial
    have hinside : Crosses (depth + 1) (depth + 1) (listed (parameters.map TypeExpr.chars)) :=
      crosses_listed fun parameter hparameter =>
        ihparameters parameter hparameter (Or.inl (by omega))
    have hblank : Crosses depth depth [' '] := crosses_plain (by decide) depth
    have harrow : Crosses depth depth ['-', '>'] := crosses_arrow (by omega)
    rw [TypeExpr.chars_arrow]
    exact hinside.parenthesized.append
      (hblank.append (harrow.append (hblank.append (ihresult (Or.inl hpos)))))

/-- The arrow of a function type is found behind its parameters. -/
theorem splitArrow?_arrow (parameters : List TypeExpr) (result : TypeExpr) (previous : Char) :
    splitArrow? [] previous 0 (TypeExpr.arrow parameters result).chars =
      some ('(' :: (listed (parameters.map TypeExpr.chars) ++ [')', ' ']),
        ' ' :: result.chars) := by
  have hinside : Crosses (0 + 1) (0 + 1) (listed (parameters.map TypeExpr.chars)) :=
    crosses_listed fun parameter _ => crosses_chars parameter (Or.inl (by decide))
  have hfront := hinside.parenthesized.append (crosses_plain (c := ' ') (by decide) 0)
  have hsplit := splitArrow?_append hfront [] previous (' ' :: result.chars)
  rw [TypeExpr.chars_arrow]
  simpa using hsplit

/-! ### The text in which an arrow is looked for -/

theorem arrowText_text (type : TypeExpr) : arrowText type.text =
    if hasParentheses type.unmarked.chars && Text.contains ['-',
      '>'] (Text.innerText type.unmarked.chars) then
      Text.trim (Text.innerText type.unmarked.chars)
    else type.unmarked.chars := by
  rw [arrowText, TypeExpr.withoutMarks_text, TypeExpr.trim_chars]

theorem hasParentheses_unmarked_iff (type : TypeExpr) : hasParentheses type.unmarked.chars = true ↔
    type.Closes := by
  obtain ⟨last, hlast, -, -, -, hcloses⟩ := TypeExpr.getLast?_unmarked type
  rw [hasParentheses, Bool.and_eq_true, beq_iff_eq, beq_iff_eq, hlast, Option.some.injEq, hcloses,
    and_iff_right_iff_imp]
  intro h
  cases type with
  | named => exact h.elim
  | wrapped => rfl
  | arrow => rfl

theorem arrowText_of_not_closes (h : ¬type.Closes) : arrowText type.text = type.unmarked.chars := by
  rw [arrowText_text, if_neg]
  rw [Bool.and_eq_true, hasParentheses_unmarked_iff]
  exact fun hboth => h hboth.1

theorem arrowText_of_closes (h : type.Closes)
    (harrow : ['-', '>'] <:+: Text.innerText type.unmarked.chars) :
    arrowText type.text = Text.trim (Text.innerText type.unmarked.chars) := by
  rw [arrowText_text, if_pos]
  rw [Bool.and_eq_true, hasParentheses_unmarked_iff, Text.contains_iff]
  exact ⟨h, harrow⟩

theorem innerText_wrapped (inner : TypeExpr) (marks : ℕ) :
    Text.innerText (TypeExpr.wrapped inner marks).unmarked.chars = inner.chars := by
  rw [TypeExpr.unmarked, TypeExpr.chars, List.replicate_zero, Text.innerText_cons_concat]

/-! ### Parameters -/

/-- A text in which behind every comma a blank stands, and then a character that is neither. -/
def Spaced (text : List Char) : Prop :=
  ∀ after, ',' :: after <:+ text → ∃ c rest, after = ' ' :: c :: rest ∧
    Text.isBlank c = false ∧ c ≠ ','

theorem spaced_of_notMem (h : ',' ∉ text) : Spaced text :=
  fun _ hsuffix => absurd (hsuffix.subset List.mem_cons_self) h

theorem Spaced.append {front : List Char} (hfront : Spaced front) (h : Spaced text) :
    Spaced (front ++ text) := by
  rintro after ⟨before, hbefore⟩
  rcases List.append_eq_append_iff.1 hbefore with ⟨middle, rfl, hmiddle⟩ | ⟨middle, rfl, hmiddle⟩
  · cases middle with
    | nil => exact h after ⟨[], hmiddle⟩
    | cons c middle =>
      obtain ⟨rfl, rfl⟩ := List.cons.inj hmiddle
      obtain ⟨c, rest, rfl, hc⟩ := hfront middle ⟨before, rfl⟩
      exact ⟨c, rest ++ text, rfl, hc⟩
  · exact h after ⟨middle, hmiddle.symm⟩

theorem Spaced.comma (h : Spaced text)
    (hfirst : ∃ c, text.head? = some c ∧ Text.isBlank c = false ∧ c ≠ ',') :
    Spaced (',' :: ' ' :: text) := by
  obtain ⟨c, hhead, hc⟩ := hfirst
  obtain ⟨rest, rfl⟩ := List.head?_eq_some_iff.1 hhead
  intro after hsuffix
  rcases List.suffix_cons_iff.1 hsuffix with heq | hsuffix
  · obtain ⟨-, rfl⟩ := List.cons.inj heq
    exact ⟨c, rest, rfl, hc⟩
  · rcases List.suffix_cons_iff.1 hsuffix with heq | hsuffix
    · exact absurd (List.cons.inj heq).1 (by decide)
    · exact h after hsuffix

theorem head?_listed_chars (first : TypeExpr) (rest : List TypeExpr) :
    ∃ c, (listed ((first :: rest).map TypeExpr.chars)).head? = some c ∧ Text.isBlank c = false ∧
      c ≠ ',' := by
  obtain ⟨c, hhead, hc⟩ := TypeExpr.head?_chars first
  refine ⟨c, ?_, hc⟩
  cases rest with
  | nil => simpa using hhead
  | cons second rest =>
    rw [List.map_cons, List.map_cons, TypeExpr.listed_cons_cons, List.append_assoc,
      List.head?_append, hhead]
    rfl

theorem spaced_listed (h : ∀ type ∈ types, Spaced type.chars) :
    Spaced (listed (types.map TypeExpr.chars)) := by
  induction types with
  | nil => exact spaced_of_notMem List.not_mem_nil
  | cons first rest ih =>
    have hfirst := h first List.mem_cons_self
    cases rest with
    | nil => simpa using hfirst
    | cons second rest =>
      have hrest := (ih fun type htype =>
        h type (List.mem_cons_of_mem _ htype)).comma (head?_listed_chars second rest)
      rw [List.map_cons, List.map_cons, TypeExpr.listed_cons_cons, List.append_assoc]
      exact hfirst.append hrest

theorem spaced_chars (type : TypeExpr) : Spaced type.chars := by
  induction type using TypeExpr.parts_induction with
  | named name arguments marks ih =>
    have hname : Spaced name.chars :=
      spaced_of_notMem (DottedName.notMem_chars (by decide) (by decide))
    have hmarks : Spaced (List.replicate marks '?') := spaced_of_notMem (by simp)
    have hopen : Spaced ['<'] := spaced_of_notMem (by decide)
    have hclose : Spaced ['>'] := spaced_of_notMem (by decide)
    rw [TypeExpr.chars, TypeExpr.charsOf_eq_map]
    refine (hname.append ?_).append hmarks
    split_ifs
    · exact spaced_of_notMem List.not_mem_nil
    · exact hopen.append ((spaced_listed ih).append hclose)
  | wrapped inner marks ih =>
    have hopen : Spaced ['('] := spaced_of_notMem (by decide)
    have hclose : Spaced (')' :: List.replicate marks '?') := spaced_of_notMem (by simp)
    rw [TypeExpr.chars]
    exact hopen.append (ih.append hclose)
  | arrow parameters result ihparameters ihresult =>
    have hopen : Spaced ['('] := spaced_of_notMem (by decide)
    have hclose : Spaced [')'] := spaced_of_notMem (by decide)
    have harrow : Spaced [' ', '-', '>', ' '] := spaced_of_notMem (by decide)
    rw [TypeExpr.chars_arrow]
    exact (hopen.append ((spaced_listed ihparameters).append hclose)).append
      (harrow.append ihresult)

/-- No piece of a spaced text between its commas is blank. -/
theorem exists_mem_piece (hspaced : Spaced text) (read : List Char)
    (hfirst : ∃ c ∈ read.reverse ++ text.takeWhile (· != ','), Text.isBlank c = false) :
    ∀ piece ∈ Text.splitFrom (· == ',') read text, ∃ c ∈ piece, Text.isBlank c = false := by
  -- the piece under way has a character that is no blank, in what was read of it or in what is left
  induction text generalizing read with
  | nil => simpa [Text.splitFrom] using hfirst
  | cons c rest ih =>
    have hrest : Spaced rest := fun after hsuffix =>
      hspaced after (hsuffix.trans (List.suffix_cons c rest))
    rw [Text.splitFrom]
    split_ifs with hc
    · obtain rfl : c = ',' := by simpa using hc
      obtain ⟨d, others, rfl, hblank, hcomma⟩ := hspaced rest List.suffix_rfl
      refine List.forall_mem_cons.2 ⟨by simpa using hfirst, ih hrest [] ⟨d, ?_, hblank⟩⟩
      simp [hcomma]
    · refine ih hrest (c :: read) ?_
      have hne : (c != ',') = true := by simpa using hc
      simpa [hne] using hfirst

/-- A spaced text has one piece more than it has commas. -/
theorem length_pieces (hspaced : Spaced text)
    (hfirst : ∃ c, text.head? = some c ∧ Text.isBlank c = false ∧ c ≠ ',') :
    (((Text.splitAtChars (· == ',') text).map Text.trim).filter (!·.isEmpty)).length =
      text.count ',' + 1 := by
  obtain ⟨c, hhead, hblank, hcomma⟩ := hfirst
  obtain ⟨rest, rfl⟩ := List.head?_eq_some_iff.1 hhead
  have hpieces := exists_mem_piece hspaced [] ⟨c, by simp [hcomma], hblank⟩
  rw [List.filter_eq_self.2, List.length_map, Text.splitAtChars, Text.length_splitFrom, List.count]
  refine List.forall_mem_map.2 fun piece hpiece => ?_
  obtain ⟨d, hd, hshown⟩ := hpieces piece hpiece
  have hne : Text.trim piece ≠ [] :=
    fun hempty => absurd (Text.trim_eq_nil_iff.1 hempty d hd) (by simp [hshown])
  simpa using hne

theorem count_listed (first : TypeExpr) (rest : List TypeExpr) :
    (listed ((first :: rest).map TypeExpr.chars)).count ',' + 1 =
      TypeExpr.placeholders (first :: rest) := by
  induction rest generalizing first with
  | nil => simp [TypeExpr.placeholders]
  | cons second rest ih =>
    have hrest := ih second
    rw [List.map_cons] at hrest
    rw [List.map_cons, List.map_cons, TypeExpr.listed_cons_cons, List.count_append,
      List.count_append, TypeExpr.placeholders, ← hrest]
    have hcomma : [',', ' '].count ',' = 1 := by decide
    omega

/-- **A parameter is counted once, and once more for each comma in it.** -/
theorem length_parameterTexts (parameters : List TypeExpr) :
    (parameterTexts ('(' :: (listed (parameters.map TypeExpr.chars) ++ [')', ' ']))).length =
      TypeExpr.placeholders parameters := by
  have htrim : Text.trim ('(' :: (listed (parameters.map TypeExpr.chars) ++ [')', ' '])) =
      '(' :: (listed (parameters.map TypeExpr.chars) ++ [')']) := by
    have hblank : ∀ c ∈ [' '], Text.isBlank c = true := List.forall_mem_singleton.2 rfl
    have hbehind := Text.trim_append_blank hblank
      ('(' :: (listed (parameters.map TypeExpr.chars) ++ [')']))
    rw [Text.trim_between (by decide) (by decide)] at hbehind
    simpa using hbehind
  rw [parameterTexts, htrim, if_pos (hasParentheses_iff.2 ⟨_, rfl⟩), Text.innerText_cons_concat,
    List.length_map]
  cases parameters with
  | nil => rfl
  | cons first rest =>
    rw [length_pieces (spaced_listed fun type _ =>
      spaced_chars type) (head?_listed_chars first rest), count_listed]

/-! ### The parts of a type -/

theorem functionParts_of_arrowText {type : String}
    (h : arrowText type = (TypeExpr.arrow parameters result).chars) :
    ∃ texts, texts.length = TypeExpr.placeholders parameters ∧
      functionParts type = (texts, result.text) := by
  refine ⟨_, length_parameterTexts parameters, ?_⟩
  have hresult : Text.trim (' ' :: result.chars) = result.chars := by
    rw [← List.singleton_append, Text.trim_blank_append (List.forall_mem_singleton.2 rfl),
      TypeExpr.trim_chars]
  rw [functionParts_eq, h, splitArrow?_arrow]
  simp only [hresult]
  rfl

/-- **A function type that does not end with a parenthesis is taken apart at its arrow.** -/
theorem functionParts_arrow (parameters : List TypeExpr) (h : ¬result.Closes) :
    ∃ texts, texts.length = TypeExpr.placeholders parameters ∧
      functionParts (TypeExpr.arrow parameters result).text = (texts, result.unmarked.text) :=
  functionParts_of_arrowText (arrowText_of_not_closes h)

/-- **A function type in one pair of parentheses is taken apart at its arrow.** -/
theorem functionParts_wrapped (parameters : List TypeExpr) (result : TypeExpr) (marks : ℕ) :
    ∃ texts, texts.length = TypeExpr.placeholders parameters ∧
      functionParts (TypeExpr.wrapped (.arrow parameters result) marks).text =
        (texts, result.text) := by
  refine functionParts_of_arrowText ?_
  have harrow : ['-', '>'] <:+: (TypeExpr.arrow parameters result).chars :=
    (TypeExpr.HasArrow.arrow parameters result).isInfix_chars
  have hcloses : (TypeExpr.wrapped (.arrow parameters result) marks).Closes := trivial
  rw [arrowText_of_closes hcloses (by rwa [innerText_wrapped]), innerText_wrapped,
    TypeExpr.trim_chars]

theorem innerText_arrow (parameters : List TypeExpr) (result : TypeExpr) :
    Text.innerText (TypeExpr.arrow parameters result).unmarked.chars =
      listed (parameters.map TypeExpr.chars) ++ [')', ' ', '-', '>', ' '] ++
        result.unmarked.chars.dropLast := by
  obtain ⟨last, hlast, -⟩ := TypeExpr.getLast?_unmarked result
  obtain ⟨init, hinit⟩ := List.getLast?_eq_some_iff.1 hlast
  have hchars : (TypeExpr.arrow parameters result).unmarked.chars =
      '(' :: (listed (parameters.map TypeExpr.chars) ++ [')', ' ', '-', '>', ' '] ++ init ++
        [last]) := by
    rw [TypeExpr.unmarked, TypeExpr.chars_arrow, hinit]
    simp
  rw [hchars, Text.innerText_cons_concat, hinit, List.dropLast_concat]

/-! ### Types in which no arrow is found -/

theorem dropLast_wrapped (inner : TypeExpr) (marks : ℕ) :
    (TypeExpr.wrapped inner marks).unmarked.chars.dropLast = '(' :: inner.chars := by
  rw [TypeExpr.unmarked, TypeExpr.chars, List.replicate_zero, ← List.cons_append,
    List.dropLast_concat]

theorem dropLast_arrow (parameters : List TypeExpr) (result : TypeExpr) :
    (TypeExpr.arrow parameters result).unmarked.chars.dropLast =
      '(' :: Text.innerText (TypeExpr.arrow parameters result).unmarked.chars := by
  rw [TypeExpr.unmarked, TypeExpr.chars, Text.innerText, List.tail_cons,
    List.dropLast_cons_of_ne_nil (by simp)]

/-- What stands before the last parenthesis of a type that closes does not end with a blank. -/
theorem getLast?_dropLast (h : type.Closes) :
    ∃ c, type.unmarked.chars.dropLast.getLast? = some c ∧ Text.isBlank c = false := by
  induction type using TypeExpr.parts_induction with
  | named => exact h.elim
  | wrapped inner marks _ =>
    obtain ⟨c, hlast, hblank, -⟩ := TypeExpr.getLast?_chars inner
    refine ⟨c, ?_, hblank⟩
    rw [dropLast_wrapped, List.getLast?_cons, hlast]
    rfl
  | arrow parameters result _ ih =>
    obtain ⟨c, hlast, hblank⟩ := ih h
    refine ⟨c, ?_, hblank⟩
    rw [dropLast_arrow, innerText_arrow, List.getLast?_cons, List.getLast?_append, hlast]
    rfl

theorem trim_innerText_arrow (parameters : List TypeExpr) (h : result.Closes) :
    Text.trim (Text.innerText (TypeExpr.arrow parameters result).unmarked.chars) =
      Text.innerText (TypeExpr.arrow parameters result).unmarked.chars := by
  obtain ⟨last, hlast, hblank⟩ := getLast?_dropLast h
  have hfirst : ∃ c, (Text.innerText (TypeExpr.arrow parameters result).unmarked.chars).head? =
    some c ∧
      Text.isBlank c = false := by
    rw [innerText_arrow, List.append_assoc]
    cases parameters with
    | nil => exact ⟨')', rfl, by decide⟩
    | cons first rest =>
      obtain ⟨c, hhead, hblank, -⟩ := head?_listed_chars first rest
      exact ⟨c, by rw [List.head?_append, hhead]; rfl, hblank⟩
  obtain ⟨first, hhead, hblank'⟩ := hfirst
  have hend : (Text.innerText (TypeExpr.arrow parameters result).unmarked.chars).getLast? =
      some last := by
    rw [innerText_arrow, List.getLast?_append, hlast]
    rfl
  exact Text.trim_of_ends hhead hend hblank' hblank

/-- The parenthesis behind the parameters closes one too many, so the arrow behind it is read like
one in brackets. -/
theorem crosses_innerText_arrow (hparameters : ∀ parameter ∈ parameters, ¬parameter.IsArrow)
    (hresult : Crosses (-1) 0 result.unmarked.chars.dropLast) :
    Crosses 0 0 (Text.innerText (TypeExpr.arrow parameters result).unmarked.chars) := by
  have hlisted : Crosses 0 0 (listed (parameters.map TypeExpr.chars)) :=
    crosses_listed fun parameter hparameter =>
      crosses_chars parameter (Or.inr ⟨rfl, hparameters parameter hparameter⟩)
  have hblank : Crosses (-1) (-1) [' '] := crosses_plain (by decide) (-1)
  have harrow : Crosses (-1) (-1) ['-', '>'] := crosses_arrow (by decide)
  have hclose : Crosses 0 (-1) [')', ' ', '-', '>', ' '] :=
    (crosses_closing 0).append (hblank.append (harrow.append hblank))
  rw [innerText_arrow]
  exact (hlisted.append hclose).append hresult

theorem crosses_dropLast (h : result.Unread) (hcloses : result.Closes) :
    Crosses (-1) 0 result.unmarked.chars.dropLast := by
  have hopen : Crosses (-1) 0 ['('] := crosses_opening (Or.inl rfl) (-1)
  induction h with
  | named => exact hcloses.elim
  | wrapped hinner marks =>
    rw [dropLast_wrapped]
    exact hopen.append (crosses_chars _ (Or.inr ⟨rfl, hinner⟩))
  | arrow hparameters hcloses _ ih =>
    rw [dropLast_arrow]
    exact hopen.append (crosses_innerText_arrow hparameters (ih hcloses))

theorem functionParts_of_crosses {type : String} (h : Crosses 0 0 (arrowText type)) :
    functionParts type = ([], "Unit") := by
  rw [functionParts_eq, h.splitArrow?_eq_none]

/-- **A type in which no arrow is found has no parameters, and the result `Unit`.** -/
theorem functionParts_unread (h : type.Unread) : functionParts type.text = ([], "Unit") := by
  refine functionParts_of_crosses ?_
  cases h with
  | named name arguments marks =>
    rw [arrowText_of_not_closes id]
    exact crosses_chars _ (Or.inr ⟨rfl, id⟩)
  | @wrapped inner hinner marks =>
    rw [arrowText_text, innerText_wrapped]
    split_ifs
    · rw [TypeExpr.trim_chars]
      exact crosses_chars _ (Or.inr ⟨rfl, hinner⟩)
    · exact crosses_chars _ (Or.inr ⟨rfl, id⟩)
  | @arrow parameters result hparameters hcloses hresult =>
    have harrow : ['-', '>'] <:+: Text.innerText
        (TypeExpr.arrow parameters result).unmarked.chars := by
      rw [innerText_arrow]
      exact ⟨listed (parameters.map TypeExpr.chars) ++ [')', ' '],
        ' ' :: result.unmarked.chars.dropLast, by simp⟩
    have hend : (TypeExpr.arrow parameters result).Closes := hcloses
    rw [arrowText_of_closes hend harrow, trim_innerText_arrow parameters hcloses]
    exact crosses_innerText_arrow hparameters (crosses_dropLast hresult hcloses)

end TypeText

end BranchCover
