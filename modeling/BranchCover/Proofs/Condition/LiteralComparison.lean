import BranchCover.Proofs.Condition.Shape
import BranchCover.Proofs.Number.Literal

/-!
# Comparisons with a literal

A name can be compared with a literal on either side. With the literal on the left, the text is
split where an operator and a name follow for the first time. Operators inside of the literal do not
count, since its last character stands between them and the end. The literals that are words are
taken for names, so that they stay on the left.

* `isLiteral_cases`: the literals.
* `IsSide`, `compared`: a comparison and its sides.
* `splitOperand?_append`: the split behind a literal.
* `AtomShape.of?_compared`: a comparison with a literal, in any number of parentheses.
-/

namespace BranchCover

namespace Condition

variable {text left right before after literal name rest : List Char} {operator : Comparator}

/-! ### Literals -/

/-- The literals that are words. -/
def keywords : List String := ["true", "false", "null"]

/-- A literal is a number, a text of one line in quotes, a character or a word. -/
theorem isLiteral_cases (h : isLiteral text = true) : Literal.isNumber text = true ∨
    (∃ body, '\n' ∉ body ∧ text = '"' :: (body ++ ['"'])) ∨
      (∃ c, c ≠ '\n' ∧ text = ['\'', c, '\'']) ∨
      String.ofList text ∈ keywords := by
  have hkeyword : ∀ keyword ∈ keywords, text = keyword.toList → String.ofList text ∈ keywords := by
    rintro keyword hmem rfl
    rwa [String.ofList_toList]
  simp only [isLiteral, Bool.or_eq_true, Bool.and_eq_true, decide_eq_true_iff, beq_iff_eq,
    Bool.not_eq_true', List.contains_eq_mem, decide_eq_false_iff_not] at h
  rcases h with ((((hnumber | ⟨⟨⟨hlength, hfirst⟩, hlast⟩, hline⟩) | hchar) | htrue) | hfalse) |
    hnull
  · exact Or.inl hnumber
  · obtain ⟨rest, rfl⟩ := List.head?_eq_some_iff.1 hfirst
    obtain ⟨front, hfront⟩ := List.getLast?_eq_some_iff.1 hlast
    -- the two quotes are two characters
    cases front with
    | nil =>
      rw [hfront] at hlength
      exact absurd hlength (by simp)
    | cons c body =>
      obtain ⟨rfl, rfl⟩ := List.cons.inj hfront
      exact Or.inr (Or.inl ⟨body, fun hbody => hline (by simp [hbody]), rfl⟩)
  · split at hchar
    · exact Or.inr (Or.inr (Or.inl ⟨_, by simpa using hchar, rfl⟩))
    · cases hchar
  · exact Or.inr (Or.inr (Or.inr (hkeyword "true" (by decide) htrue)))
  · exact Or.inr (Or.inr (Or.inr (hkeyword "false" (by decide) hfalse)))
  · exact Or.inr (Or.inr (Or.inr (hkeyword "null" (by decide) hnull)))

/-- A text of one line that can be a side of a comparison, since neither blanks nor parentheses nor
operators run into it. -/
structure IsSide (text : List Char) : Prop where
  line : '\n' ∉ text
  first : ∃ c, text.head? = some c ∧ Text.isBlank c = false ∧ c ≠ '(' ∧ c ≠ '='
  last : ∃ c, text.getLast? = some c ∧ Text.isBlank c = false ∧ c ∉ Comparator.marks

/-- Characters that are neither blanks nor parentheses nor part of an operator make a side. -/
theorem isSide_of_forall (hne : text ≠ [])
    (h : ∀ c ∈ text, Text.isBlank c = false ∧ c ≠ '(' ∧ c ∉ Comparator.marks) : IsSide text where
  line hline := absurd (h _ hline).1 (by decide)
  first := by
    obtain ⟨c, rest, rfl⟩ := List.exists_cons_of_ne_nil hne
    obtain ⟨hblank, hopen, hmark⟩ := h c List.mem_cons_self
    refine ⟨c, rfl, hblank, hopen, ?_⟩
    rintro rfl
    exact hmark (by decide)
  last := by
    obtain ⟨hblank, -, hmark⟩ := h _ (List.getLast_mem hne)
    exact ⟨_, List.getLast?_eq_some_getLast hne, hblank, hmark⟩

theorem isSide_of_isIdentifier (h : Text.isIdentifier text = true) : IsSide text := by
  refine isSide_of_forall (Text.ne_nil_of_isIdentifier h) fun c hc => ?_
  have hword := Text.isWord_of_mem h c hc
  refine ⟨Bool.eq_false_iff.2 fun hblank => ?_, ?_, fun hmark => ?_⟩
  · rw [Text.isWord_of_isBlank hblank] at hword
    cases hword
  · rintro rfl
    exact absurd hword (by decide)
  · rw [(Comparator.plain_of_mem_marks hmark).1] at hword
    cases hword

theorem isSide_quoted {quote : Char} (hquote : quote = '"' ∨ quote = '\'') (hline : '\n' ∉ text) :
    IsSide (quote :: (text ++ [quote])) where
  line := by rcases hquote with rfl | rfl <;> simp [hline]
  first := by
    refine ⟨quote, rfl, ?_⟩
    rcases hquote with rfl | rfl <;> decide
  last := by
    refine ⟨quote, by rw [← List.cons_append, List.getLast?_concat], ?_⟩
    rcases hquote with rfl | rfl <;> decide

/-- No character of a number literal is a blank, a parenthesis or part of an operator. -/
theorem isSide_of_isNumber (h : Literal.isNumber text = true) : IsSide text := by
  obtain ⟨number, hread⟩ := Option.isSome_iff_exists.1 h
  obtain ⟨hwf, rfl⟩ := Literal.NumberLiteral.read?_eq_some_iff.1 hread
  obtain ⟨first, tail, hfirst, -⟩ := hwf.first
  have hother : ∀ c ∈ '-' :: '.' :: '_' :: Literal.numberSuffixes,
      Text.isBlank c = false ∧ c ≠ '(' ∧ c ∉ Comparator.marks := by
    simp only [Literal.numberSuffixes, List.forall_mem_cons, List.not_mem_nil, false_imp_iff,
      implies_true, and_true]
    decide
  refine isSide_of_forall (by simp [Literal.NumberLiteral.text, hfirst]) fun c hc => ?_
  rcases hwf.of_mem_text hc with hdigit | hmem
  · refine ⟨Text.isBlank_of_isDecimal hdigit, ?_, fun hmark => ?_⟩
    · rintro rfl
      exact absurd hdigit (by decide)
    · simp only [Comparator.marks, List.mem_cons, List.not_mem_nil, or_false] at hmark
      rcases hmark with rfl | rfl | rfl | rfl <;> exact absurd hdigit (by decide)
  · exact hother c hmem

theorem isIdentifier_keyword (h : String.ofList text ∈ keywords) :
    Text.isIdentifier text = true := by
  have hall : ∀ keyword ∈ keywords, Text.isIdentifier keyword.toList = true := by decide
  simpa using hall _ h

theorem isSide_of_isLiteral (h : isLiteral text = true) : IsSide text := by
  rcases isLiteral_cases h with hnumber | ⟨body, hline, rfl⟩ | ⟨c, hline, rfl⟩ | hkeyword
  · exact isSide_of_isNumber hnumber
  · exact isSide_quoted (Or.inl rfl) hline
  · exact @isSide_quoted [c] _ (Or.inr rfl) (by simpa using hline.symm)
  · exact isSide_of_isIdentifier (isIdentifier_keyword hkeyword)

/-- A literal that starts like a name is a word. -/
theorem mem_keywords_of_isIdentifierStart {c : Char} (hliteral : isLiteral text = true)
    (hhead : text.head? = some c)
    (hc : Text.isIdentifierStart c = true) : String.ofList text ∈ keywords := by
  obtain ⟨rest, rfl⟩ := List.head?_eq_some_iff.1 hhead
  rcases isLiteral_cases hliteral with hnumber | ⟨body, -, hbody⟩ | ⟨d, -, hd⟩ | hkeyword
  · have hsign : c ≠ '-' := by
      rintro rfl
      exact absurd hc (by decide)
    rw [isNumber_eq_false hsign (Text.plain_of_isIdentifierStart hc).2.1] at hnumber
    cases hnumber
  · rw [(List.cons.inj hbody).1] at hc
    exact absurd hc (by decide)
  · rw [(List.cons.inj hd).1] at hc
    exact absurd hc (by decide)
  · exact hkeyword

/-! ### The split behind a literal -/

/-- What stands before the name is made of blanks and operators. -/
theorem exists_of_operatorAndName? (h : operatorAndName? text = some (operator, name)) :
    ∃ start, (∀ c ∈ start, Text.isBlank c = true ∨ c ∈ Comparator.marks) ∧
      text = start ++ name := by
  obtain ⟨tail, hread, rfl, -⟩ := operatorAndName?_eq_some_iff.1 h
  obtain ⟨hoperator, htext⟩ := Comparator.read?_eq_some hread
  have hall : ∀ o ∈ Comparator.all, o.text.toList ⊆ Comparator.marks := by decide
  refine ⟨text.takeWhile Text.isBlank ++ (operator.text.toList ++ tail.takeWhile Text.isBlank), ?_,
    ?_⟩
  · simp only [List.mem_append]
    rintro c (hc | hc | hc)
    · exact Or.inl (List.mem_takeWhile_imp hc)
    · exact Or.inr (hall operator hoperator hc)
    · exact Or.inl (List.mem_takeWhile_imp hc)
  · rw [List.append_assoc, List.append_assoc, Text.append_trimStart, ← htext, Text.append_trimStart]

/-- No operator and name start where a character of another kind stands before an operator. -/
theorem operatorAndName?_eq_none {front : List Char} {c mark : Char}
    (hblank : Text.isBlank c = false)
    (hc : c ∉ Comparator.marks) (hmark : mark ∈ Comparator.marks) (hrest : mark ∈ rest) :
    operatorAndName? (front ++ c :: rest) = none := by
  rw [Option.eq_none_iff_forall_ne_some]
  rintro ⟨operator, name⟩ h
  obtain ⟨start, hstart, htext⟩ := exists_of_operatorAndName? h
  obtain ⟨-, -, -, hname⟩ := operatorAndName?_eq_some_iff.1 h
  have hword : mark ∉ name := fun hmem => by
    have hisWord := Text.isWord_of_mem hname mark hmem
    rw [(Comparator.plain_of_mem_marks hmark).1] at hisWord
    cases hisWord
  -- the character belongs to the name, and so does the operator behind it
  rcases List.append_eq_append_iff.1 htext with ⟨more, rfl, hmore⟩ | ⟨more, rfl, hmore⟩
  · cases more with
    | nil =>
      rw [List.nil_append] at hmore
      exact hword (hmore ▸ List.mem_cons_of_mem c hrest)
    | cons d more =>
      obtain rfl := (List.cons.inj hmore).1
      rcases hstart c (by simp) with hblank' | hmark'
      · rw [hblank] at hblank'
        cases hblank'
      · exact hc hmark'
  · exact hword (by rw [hmore]; simp [hrest])

/-- A text is split behind a piece of one line that ends in such a character. -/
theorem splitOperand?_append {piece read : List Char} {last mark : Char}
    (hline : '\n' ∉ piece ++ [last])
    (hblank : Text.isBlank last = false) (hlast : last ∉ Comparator.marks)
    (hmark : mark ∈ Comparator.marks)
    (hmem : mark ∈ rest) (hrest : operatorAndName? rest = some (operator, name)) :
    splitOperand? read (piece ++ last :: rest) = some (read.reverse ++ (piece ++ [last]), operator,
      name) := by
  induction piece generalizing read with
  | nil =>
    have hc : last ≠ '\n' := fun hc => hline (by simp [hc])
    rw [List.nil_append, splitOperand?, if_neg hc, hrest]
    simp
  | cons c piece ih =>
    obtain ⟨hc, hline⟩ := not_or.1 (mt List.mem_cons.2 hline)
    rw [List.cons_append, splitOperand?, if_neg (Ne.symm hc),
      operatorAndName?_eq_none hblank hlast hmark hmem]
    simp only
    rw [ih hline]
    simp

/-! ### Two sides -/

theorem IsSide.ne_nil (h : IsSide text) : text ≠ [] := by
  obtain ⟨c, hfirst, -⟩ := h.first
  rintro rfl
  cases hfirst

theorem IsSide.isOperand (h : IsSide text) : IsOperand text := by
  obtain ⟨c, hfirst, -, -, hequal⟩ := h.first
  exact ⟨h.ne_nil, h.line, fun heq => hequal (Option.some.inj (hfirst.symm.trans heq))⟩

theorem IsSide.trim_eq (h : IsSide text) : Text.trim text = text := by
  obtain ⟨first, hfirst, hblank, -⟩ := h.first
  obtain ⟨last, hlast, hblank', -⟩ := h.last
  exact Text.trim_of_ends hfirst hlast hblank hblank'

/-- Two sides with an operator between them, and what stands around the operator. -/
def compared (left before : List Char) (operator : Comparator) (after right : List Char) :
    List Char :=
  left ++ (before ++ (operator.text.toList ++ (after ++ right)))

/-- No blanks or parentheses stand around two sides. -/
theorem stripParenthesesChars_compared (hleft : IsSide left) (hright : IsSide right) :
    stripParenthesesChars (compared left before operator after right) =
      compared left before operator after right := by
  obtain ⟨first, hfirst, hblank, hopen, -⟩ := hleft.first
  obtain ⟨last, hlast, hblank', -⟩ := hright.last
  have hhead : (compared left before operator after right).head? = some first := by
    rw [compared, List.head?_append, hfirst, Option.some_or]
  have hend : (compared left before operator after right).getLast? = some last := by
    simp only [compared, List.getLast?_append, hlast, Option.some_or]
  have htrim := Text.trim_of_ends hhead hend hblank hblank'
  have hwrapped : isWrapped (Text.trim (compared left before operator after right)) = false := by
    rw [htrim]
    exact isWrapped_eq_false fun heq => hopen (Option.some.inj (hhead.symm.trans heq))
  rw [stripParenthesesChars_of_not_isWrapped hwrapped, htrim]

theorem isFlat_of_isIdentifier (h : Text.isIdentifier text = true) : IsFlat text :=
  ⟨fun hc => absurd (Text.isWord_of_mem h _ hc) (by decide),
    fun hc => absurd (Text.isWord_of_mem h _ hc) (by decide)⟩

section Sides

variable (hoperator : operator ∈ Comparator.all) (hbefore : ∀ c ∈ before, Text.isBlank c = true)
  (hafter : ∀ c ∈ after, Text.isBlank c = true)

include hafter in
/-- The blanks in front of a side are skipped. -/
theorem IsSide.trimStart_append (h : IsSide right) :
    Text.trimStart (after ++ right) = right ∧ (after ++ right).head? ≠ some '=' := by
  obtain ⟨c, hfirst, hblank, -, hequal⟩ := h.first
  obtain ⟨rest, rfl⟩ := List.head?_eq_some_iff.1 hfirst
  refine ⟨Text.trimStart_append_cons hafter hblank, ?_⟩
  cases after with
  | nil => exact fun heq => hequal (Option.some.inj heq)
  | cons d after =>
    intro heq
    rw [Option.some.inj heq] at hafter
    exact absurd (hafter '=' List.mem_cons_self) (by decide)

include hoperator hbefore hafter

theorem isFlat_middle : IsFlat (before ++ (operator.text.toList ++ after)) := by
  have hall : ∀ o ∈ Comparator.all, '(' ∉ o.text.toList ∧ ')' ∉ o.text.toList := by decide
  exact isFlat_append.2 ⟨isFlat_of_isBlank hbefore,
    isFlat_append.2 ⟨hall operator hoperator, isFlat_of_isBlank hafter⟩⟩

/-- Only the literal of a comparison can close parentheses that stand before the comparison. -/
theorem overcloses_compared (hname : Text.isIdentifier name = true) (literal : List Char) :
    (Overcloses (compared name before operator after literal) ↔ Overcloses literal) ∧
      (Overcloses (compared literal before operator after name) ↔ Overcloses literal) := by
  have hflat := isFlat_of_isIdentifier hname
  have hmiddle := isFlat_middle hoperator hbefore hafter
  have hassoc : ∀ right, before ++ (operator.text.toList ++ (after ++ right)) =
      (before ++ (operator.text.toList ++ after)) ++ right := fun right => by simp
  constructor
  · rw [compared, hassoc, overcloses_flat_append hflat, overcloses_flat_append hmiddle]
  · rw [compared, hassoc, overcloses_append_flat (isFlat_append.2 ⟨hmiddle, hflat⟩)]

theorem subjectLast?_compared (hliteral : isLiteral literal = true)
    (hname : Text.isIdentifier name = true) :
    subjectLast? (compared literal before operator after name) =
      some (.comparison (String.ofList name) operator.flip (String.ofList literal)) := by
  have hside := isSide_of_isLiteral hliteral
  obtain ⟨last, hlast, hblank, hmark⟩ := hside.last
  obtain ⟨front, rfl⟩ := List.getLast?_eq_some_iff.1 hlast
  obtain ⟨mark, tail, htext, hmem⟩ := Comparator.exists_text hoperator
  obtain ⟨hskip, hequal⟩ := (isSide_of_isIdentifier hname).trimStart_append hafter
  have hrest : operatorAndName? (before ++ (operator.text.toList ++ (after ++ name))) =
      some (operator, name) :=
    operatorAndName?_eq_some_iff.2 ⟨after ++ name, read?_compared hbefore hoperator hequal,
      hskip, hname⟩
  have hsplit : splitOperand? [] (compared (front ++ [last]) before operator after name) =
      some (front ++ [last], operator, name) := by
    rw [compared, List.append_assoc, List.singleton_append]
    exact splitOperand?_append hside.line hblank hmark hmem (by simp [htext]) hrest
  rw [subjectLast?, hsplit]
  simp only [hside.trim_eq, hliteral, if_true]

end Sides

end Condition

namespace AtomShape

open Condition

variable {left right before after : List Char} {operator : Comparator}
  (hoperator : operator ∈ Comparator.all)
  (hbefore : ∀ c ∈ before, Text.isBlank c = true) (hafter : ∀ c ∈ after, Text.isBlank c = true)

include hoperator hbefore hafter

theorem of?_compared_name (hleft : Text.isIdentifier left = true) (hright : IsSide right) :
    of? (String.ofList (compared left before operator after right)) =
      some (.comparison (String.ofList left) operator (String.ofList right)) := by
  obtain ⟨hskip, hequal⟩ := hright.trimStart_append hafter
  have hchars : stripParenthesesChars
    (String.ofList (compared left before operator after right)).toList =
      left ++ (before ++ (operator.text.toList ++ (after ++ right))) := by
    rw [String.toList_ofList]
    exact stripParenthesesChars_compared (isSide_of_isIdentifier hleft) hright
  rw [of?_eq_comparison hleft hbefore hoperator hequal hchars (hskip.symm ▸ hright.isOperand),
    hskip]

theorem of?_compared_literal (hleft : isLiteral left = true) (hword : String.ofList left ∉ keywords)
    (hright : Text.isIdentifier right = true) :
      of? (String.ofList (compared left before operator after right)) =
      some (.comparison (String.ofList right) operator.flip (String.ofList left)) := by
  obtain ⟨first, hfirst, -⟩ := (isSide_of_isLiteral hleft).first
  have hname : Text.identifier? (compared left before operator after right) = none := by
    obtain ⟨rest, rfl⟩ := List.head?_eq_some_iff.1 hfirst
    have hstart : ¬Text.isIdentifierStart first = true :=
      fun hstart => hword (mem_keywords_of_isIdentifierStart hleft hfirst hstart)
    rw [compared, List.cons_append, Text.identifier?, if_neg hstart]
  have hstrip : stripParenthesesChars
    (String.ofList (compared left before operator after right)).toList =
      compared left before operator after right := by
    rw [String.toList_ofList]
    exact stripParenthesesChars_compared (isSide_of_isLiteral hleft) (isSide_of_isIdentifier hright)
  unfold of?
  simp only [hstrip, emptiness?, subjectFirst?, hname,
    subjectLast?_compared hoperator hbefore hafter hleft hright]
  rfl

/-- **A comparison of a name with a literal is recognized with the literal on either side, except
for two cases.** With the literal on the left, the sides are exchanged and the operator with them,
but not if the literal is a word, which is taken for the name. Parentheses and blanks around the
comparison do not count, but no shape is recognized in parentheses if a beginning of the literal
closes more of them than it opens. -/
theorem of?_compared {name literal : String} (hname : Text.isIdentifier name.toList = true)
    (hliteral : isLiteral literal.toList = true) (layers : ℕ) (text : String) :
    (Enclosed (compared name.toList before operator after literal.toList) layers text.toList →
      of? text = if 0 < layers ∧ Overcloses literal.toList then none
        else some (.comparison name operator literal)) ∧
      (Enclosed (compared literal.toList before operator after name.toList) layers text.toList →
        of? text = if 0 < layers ∧ Overcloses literal.toList then none
          else if literal ∈ keywords then some (.comparison literal operator name)
          else some (.comparison name operator.flip literal)) := by
  obtain ⟨hright, hleft⟩ := overcloses_compared hoperator hbefore hafter hname literal.toList
  refine ⟨fun h => ?_, fun h => ?_⟩
  · rw [of?_enclosed h, of?_compared_name hoperator hbefore hafter hname
      (isSide_of_isLiteral hliteral)]
    simp only [hright, String.ofList_toList]
  · have hbare : of? (String.ofList (compared literal.toList before operator after name.toList)) =
        if literal ∈ keywords then some (.comparison literal operator name)
        else some (.comparison name operator.flip literal) := by
      have hchars : String.ofList literal.toList ∈ keywords ↔ literal ∈ keywords := by
        rw [String.ofList_toList]
      split_ifs with hword
      · have hleading := isIdentifier_keyword (hchars.2 hword)
        rw [of?_compared_name hoperator hbefore hafter hleading (isSide_of_isIdentifier hname)]
        simp only [String.ofList_toList]
      · rw [of?_compared_literal hoperator hbefore hafter hliteral (mt hchars.1 hword) hname]
        simp only [String.ofList_toList]
    rw [of?_enclosed h, hbare]
    simp only [hleft]

omit hoperator hbefore hafter

/-- The operator in the literal does not count, and neither does the parenthesis that it opens. -/
theorem of?_compared_operator : of? "((x <=\"a >= b(\"))" =
    some (.comparison "x" (some .atMost) (some "\"a >= b(\"")) ∧
    of? "((\"a >= b(\" <=x))" = some (.comparison "x" (some .atLeast) (some "\"a >= b(\"")) := by
  have hright : "((x <=\"a >= b(\"))".toList = List.replicate 2 '(' ++
      (compared "x".toList [' '] .atMost [] "\"a >= b(\"".toList ++ List.replicate 2 ')') := by
        decide
  have hleft : "((\"a >= b(\" <=x))".toList = List.replicate 2 '(' ++
      (compared "\"a >= b(\"".toList [' '] .atMost [] "x".toList ++ List.replicate 2 ')') := by
        decide
  have hwritten := @of?_compared [' '] [] .atMost (by decide) (List.forall_mem_singleton.2 rfl)
    (List.forall_mem_nil _) "x"
    "\"a >= b(\"" (by decide) (by decide) 2
  exact ⟨(hwritten _).1 (hright ▸ Enclosed.replicate _ 2),
    (hwritten _).2 (hleft ▸ Enclosed.replicate _ 2)⟩

/-- `null` on the left is not brought to the right, and a parenthesis in a literal hides the
comparison. -/
theorem of?_compared_keyword : Text.isIdentifier "x".toList = true ∧ "x" ∉ keywords ∧
    isLiteral "null".toList = true ∧
    of? "null == x" = some (.comparison "null" (some .equal) (some "x")) ∧
    isLiteral "\")\"".toList = true ∧
    of? "(x == \")\")" = none := by
  decide

end AtomShape

end BranchCover
