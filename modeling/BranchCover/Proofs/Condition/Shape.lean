import BranchCover.Proofs.Condition.Parentheses
import BranchCover.Proofs.Text.Word

/-!
# Recognized shapes

A text is recognized by four forms, which are tried one after another. The name that a recognized
shape is about is an identifier, and the operator of a recognized comparison is a known one. A text
that starts with a name and an operator is a comparison exactly if what follows can be an operand,
whatever the operator is.

* `emptiness?_eq_some`, `subjectFirst?_eq_some_iff`, `subjectLast?_eq_some`, `bareName?_eq_some`:
  the four forms.
* `AtomShape.isIdentifier_subject`, `AtomShape.known_of_comparison`: the parts of a recognized
  shape.
* `AtomShape.of?_eq_comparison`, `AtomShape.isOperand_of_comparison`: a text with a name and an
  operator in front.
* `AtomShape.of?_parenthesized`, `AtomShape.of?_enclosed`: a text in parentheses.
-/

namespace BranchCover

/-! ### Operators -/

namespace Comparator

variable {operator : Comparator} {text rest : List Char}

theorem read?_eq_some (h : read? text = some (operator, rest)) :
    operator ∈ all ∧ text = operator.text.toList ++ rest := by
  unfold read? at h
  split at h
  case h_7 => cases h
  all_goals
    obtain ⟨rfl, rfl⟩ := Prod.mk.inj (Option.some.inj h)
    exact ⟨by decide, rfl⟩

theorem flip_known (h : operator ∈ all) : operator.flip ∈ all := by
  have hall : ∀ o ∈ all, o.flip ∈ all := by decide
  exact hall operator h

/-- The characters that operators start with. -/
def marks : List Char := ['>', '<', '=', '!']

/-- No operator starts like a word, a blank, a call or a parenthesis. -/
theorem plain_of_mem_marks {mark : Char} (h : mark ∈ marks) :
    Text.isWord mark = false ∧ Text.isBlank mark = false ∧ mark ≠ '?' ∧ mark ≠ '.' := by
  simp only [marks, List.mem_cons, List.not_mem_nil, or_false] at h
  rcases h with rfl | rfl | rfl | rfl <;> decide

theorem exists_text (h : operator ∈ all) : ∃ mark tail, operator.text.toList = mark :: tail ∧
    mark ∈ marks := by
  simp only [all, List.mem_cons, List.not_mem_nil, or_false] at h
  rcases h with rfl | rfl | rfl | rfl | rfl | rfl <;> exact ⟨_, _, rfl, by decide⟩

/-- Where an operator is read, its first character stands. -/
theorem head?_of_read? (h : read? text = some (operator, rest)) :
    ∃ mark ∈ marks, text.head? = some mark := by
  obtain ⟨hoperator, rfl⟩ := read?_eq_some h
  obtain ⟨mark, tail, htext, hmark⟩ := exists_text hoperator
  exact ⟨mark, hmark, by rw [htext]; rfl⟩

/-- A written operator is read, unless the character behind it makes it longer. -/
theorem read?_append (h : operator ∈ all) (hrest : rest.head? ≠ some '=') :
    read? (operator.text.toList ++ rest) = some (operator, rest) := by
  simp only [all, List.mem_cons, List.not_mem_nil, or_false] at h
  rcases h with rfl | rfl | rfl | rfl | rfl | rfl
  · rfl
  · rfl
  · rfl
  · rfl
  all_goals
    cases rest with
    | nil => rfl
    | cons c rest =>
      have hc : c ≠ '=' := fun hc => hrest (by rw [hc, List.head?_cons])
      simp [text, read?, hc]

end Comparator

namespace Condition

variable {text rest gap operand name read : List Char} {operator : Comparator} {shape : AtomShape}

/-! ### Literals -/

theorem isNumber_eq_false {c : Char} (hsign : c ≠ '-') (hc : Text.isDecimal c = false)
    (rest : List Char) :
    Literal.isNumber (c :: rest) = false := by
  have hread : Literal.NumberLiteral.read? (c :: rest) =
      Literal.readUnsigned? false (c :: rest) := by
    rw [Literal.NumberLiteral.read?]
    intro tail heq
    exact hsign (List.cons.inj heq).1
  rw [Literal.isNumber, hread, Literal.readUnsigned?, if_neg (by simp [hc])]
  rfl

/-- No literal starts with a parenthesis. -/
theorem isLiteral_parenthesis (rest : List Char) : isLiteral ('(' :: rest) = false := by
  unfold isLiteral
  rw [isNumber_eq_false (by decide) (by decide)]
  split
  · rename_i heq
    exact absurd (List.cons.inj heq).1 (by decide)
  · simp

/-- A text that starts like a name is a literal only if all of it is a word. -/
theorem isLiteral_eq_false {c mark : Char} (hhead : text.head? = some c)
    (hc : Text.isIdentifierStart c = true)
    (hmark : mark ∈ text) (hword : Text.isWord mark = false) : isLiteral text = false := by
  obtain ⟨rest, rfl⟩ := List.head?_eq_some_iff.1 hhead
  have hstart : ∀ d, Text.isIdentifierStart d = false → c ≠ d := by
    rintro d hd rfl
    rw [hc] at hd
    cases hd
  have hkeyword : ∀ keyword : List Char, keyword.all Text.isWord = true →
      (c :: rest == keyword) = false := by
    intro keyword hkeyword
    refine beq_eq_false_iff_ne.2 ?_
    rintro rfl
    rw [List.all_eq_true.1 hkeyword mark hmark] at hword
    cases hword
  unfold isLiteral
  rw [isNumber_eq_false (hstart '-' (by decide)) (Text.plain_of_isIdentifierStart hc).2.1]
  split
  · rename_i heq
    exact absurd (List.cons.inj heq).1 (hstart '\'' (by decide))
  · rw [hkeyword "true".toList (by decide), hkeyword "false".toList (by decide),
      hkeyword "null".toList (by decide)]
    simp [hstart '"' (by decide)]

/-! ### The four forms -/

/-- What can stand behind an operator: one line that starts with no `=`. -/
def IsOperand (text : List Char) : Prop := text ≠ [] ∧ '\n' ∉ text ∧ text.head? ≠ some '='

instance (text : List Char) : Decidable (IsOperand text) :=
  inferInstanceAs (Decidable (text ≠ [] ∧ '\n' ∉ text ∧ text.head? ≠ some '='))

theorem emptiness?_eq_some (h : emptiness? text = some shape) :
    ∃ subject predicate rest, Text.identifier? text = some (subject, rest) ∧
      shape = .emptiness (String.ofList subject) predicate := by
  unfold emptiness? at h
  split at h
  · cases h
  · rename_i hname
    dsimp only at h
    split at h
    · obtain ⟨predicate, -, rfl⟩ := Option.map_eq_some_iff.1 h
      exact ⟨_, predicate, _, hname, rfl⟩
    · cases h

theorem subjectFirst?_eq_some_iff : subjectFirst? text = some shape ↔
    ∃ subject behind operator rest, Text.identifier? text = some (subject, behind) ∧
      Comparator.read? (Text.trimStart behind) = some (operator, rest) ∧
      IsOperand (Text.trimStart rest) ∧
      shape = .comparison (String.ofList subject) operator
        (String.ofList (Text.trimStart rest)) := by
  have hguard : ∀ operand : List Char,
      (operand.isEmpty || operand.contains '\n' || operand.head? == some '=') = true ↔
      ¬IsOperand operand := by
    intro operand
    simp only [IsOperand, Bool.or_eq_true, List.isEmpty_iff, List.contains_iff_mem, beq_iff_eq]
    tauto
  unfold subjectFirst?
  constructor
  · intro h
    split at h
    · cases h
    · rename_i subject behind hname
      split at h
      · cases h
      · rename_i operator rest hread
        dsimp only at h
        split_ifs at h with hbad
        rw [hguard, not_not] at hbad
        exact ⟨subject, behind, operator, rest, hname, hread, hbad, (Option.some.inj h).symm⟩
  · rintro ⟨subject, behind, operator, rest, hname, hread, hoperand, rfl⟩
    simp only [hname, hread]
    exact if_neg (mt (hguard _).1 (not_not.2 hoperand))

theorem operatorAndName?_eq_some_iff : operatorAndName? text = some (operator, name) ↔
    ∃ rest, Comparator.read? (Text.trimStart text) = some (operator, rest) ∧
      Text.trimStart rest = name ∧
      Text.isIdentifier name = true := by
  unfold operatorAndName?
  constructor
  · intro h
    split at h
    · cases h
    · rename_i rest hread
      dsimp only at h
      split_ifs at h with hname
      obtain ⟨rfl, rfl⟩ := Prod.mk.inj (Option.some.inj h)
      exact ⟨rest, hread, rfl, hname⟩
  · rintro ⟨rest, hread, rfl, hname⟩
    simp only [hread, hname, if_true]

/-- What is split off is a beginning of the text that an operator and a name follow. -/
theorem splitOperand?_eq_some (h : splitOperand? read text = some (operand, operator, name)) :
    ∃ piece rest, piece ≠ [] ∧ text = piece ++ rest ∧ operand = read.reverse ++ piece ∧
      operatorAndName? rest = some (operator, name) := by
  induction text generalizing read with
  | nil => cases h
  | cons c text ih =>
    rw [splitOperand?] at h
    split_ifs at h
    split at h
    · rename_i hname
      obtain ⟨rfl, hpair⟩ := Prod.mk.inj (Option.some.inj h)
      obtain ⟨rfl, rfl⟩ := Prod.mk.inj hpair
      exact ⟨[c], text, List.cons_ne_nil c [], rfl, List.reverse_cons, hname⟩
    · obtain ⟨piece, rest, -, rfl, rfl, hname⟩ := ih h
      exact ⟨c :: piece, rest, List.cons_ne_nil c piece, rfl, by simp, hname⟩

theorem subjectLast?_eq_some (h : subjectLast? text = some shape) :
    ∃ operand rest operator subject, operand ≠ [] ∧ text = operand ++ rest ∧
      operatorAndName? rest = some (operator, subject) ∧ isLiteral (Text.trim operand) = true ∧
      shape = .comparison (String.ofList subject) operator.flip
        (String.ofList (Text.trim operand)) := by
  unfold subjectLast? at h
  split at h
  · cases h
  · rename_i operand operator subject hsplit
    obtain ⟨piece, rest, hne, htext, hoperand, hname⟩ := splitOperand?_eq_some hsplit
    rw [List.reverse_nil, List.nil_append] at hoperand
    subst hoperand
    dsimp only at h
    split_ifs at h with hliteral
    exact ⟨operand, rest, operator, subject, hne, htext, hname, hliteral, (Option.some.inj h).symm⟩

theorem bareName?_eq_some (h : bareName? text = some shape) :
    Text.isIdentifier text = true ∧ shape = .boolean (String.ofList text) := by
  unfold bareName? at h
  split_ifs at h with hname
  exact ⟨by simp_all, (Option.some.inj h).symm⟩

/-! ### A name and an operator in front -/

section Compared

variable (hname : Text.isIdentifier name = true) (hgap : ∀ c ∈ gap, Text.isBlank c = true)
  (hoperator : operator ∈ Comparator.all)

include hgap hoperator in
/-- What stands behind the name belongs neither to it nor to a call. -/
theorem exists_head_compared (rest : List Char) :
    ∃ c tail, gap ++ (operator.text.toList ++ rest) = c :: tail ∧
    Text.isWord c = false ∧ c ≠ '?' ∧ c ≠ '.' := by
  cases gap with
  | nil =>
    obtain ⟨mark, tail, htext, hmark⟩ := Comparator.exists_text hoperator
    obtain ⟨hword, -, hquestion, hdot⟩ := Comparator.plain_of_mem_marks hmark
    exact ⟨mark, tail ++ rest, by rw [htext]; rfl, hword, hquestion, hdot⟩
  | cons c gap =>
    have hblank := hgap c List.mem_cons_self
    refine ⟨c, _, rfl, Text.isWord_of_isBlank hblank, ?_, ?_⟩
    · rintro rfl
      exact absurd hblank (by decide)
    · rintro rfl
      exact absurd hblank (by decide)

include hgap hoperator in
theorem read?_compared (hrest : rest.head? ≠ some '=') :
    Comparator.read? (Text.trimStart (gap ++ (operator.text.toList ++ rest))) =
      some (operator, rest) := by
  obtain ⟨mark, tail, htext, hmark⟩ := Comparator.exists_text hoperator
  have htrim : Text.trimStart (gap ++ (operator.text.toList ++ rest)) =
      operator.text.toList ++ rest := by
    rw [htext]
    exact Text.trimStart_append_cons hgap (Comparator.plain_of_mem_marks hmark).2.1
  rw [htrim, Comparator.read?_append hoperator hrest]

include hname hgap hoperator

theorem identifier?_compared : Text.identifier? (name ++ (gap ++ (operator.text.toList ++ rest))) =
    some (name, gap ++ (operator.text.toList ++ rest)) := by
  obtain ⟨c, tail, htext, hword, -, -⟩ := exists_head_compared hgap hoperator rest
  refine Text.identifier?_append hname fun d hd => ?_
  rw [htext] at hd
  obtain rfl := Option.some.inj hd
  exact hword

theorem emptiness?_compared : emptiness? (name ++ (gap ++ (operator.text.toList ++ rest))) =
    none := by
  obtain ⟨c, tail, htext, -, hquestion, hdot⟩ := exists_head_compared hgap hoperator rest
  rw [emptiness?, identifier?_compared hname hgap hoperator, htext]
  simp [hquestion, hdot]

theorem subjectFirst?_compared (hrest : rest.head? ≠ some '=')
    (hoperand : IsOperand (Text.trimStart rest)) :
    subjectFirst? (name ++ (gap ++ (operator.text.toList ++ rest))) =
      some (.comparison (String.ofList name) operator (String.ofList (Text.trimStart rest))) :=
  subjectFirst?_eq_some_iff.2 ⟨name, _, operator, rest, identifier?_compared hname hgap hoperator,
    read?_compared hgap hoperator hrest, hoperand, rfl⟩

theorem isOperand_of_subjectFirst? (hrest : rest.head? ≠ some '=')
    (h : subjectFirst? (name ++ (gap ++ (operator.text.toList ++ rest))) = some shape) :
    IsOperand (Text.trimStart rest) := by
  obtain ⟨subject, behind, known, after, hsubject, hread, hoperand, -⟩ :=
    subjectFirst?_eq_some_iff.1 h
  rw [identifier?_compared hname hgap hoperator] at hsubject
  obtain ⟨-, rfl⟩ := Prod.mk.inj (Option.some.inj hsubject)
  rw [read?_compared hgap hoperator hrest] at hread
  obtain ⟨-, rfl⟩ := Prod.mk.inj (Option.some.inj hread)
  exact hoperand

omit hname hgap hoperator in
/-- A name can stand behind an operator. -/
theorem isOperand_of_isIdentifier (h : Text.isIdentifier text = true) : IsOperand text := by
  have hword := Text.isWord_of_mem h
  exact ⟨Text.ne_nil_of_isIdentifier h, fun hline => absurd (hword _ hline) (by decide),
    fun hequal => absurd (hword _ (List.mem_of_head? hequal)) (by decide)⟩

/-- A text with a name and an operator in front has a literal in front only if the literal is the
name. -/
theorem isOperand_of_subjectLast? (hrest : rest.head? ≠ some '=')
    (h : subjectLast? (name ++ (gap ++ (operator.text.toList ++ rest))) = some shape) :
    IsOperand (Text.trimStart rest) := by
  obtain ⟨operand, behind, known, subject, hne, htext, hsubject, hliteral, -⟩ :=
    subjectLast?_eq_some h
  obtain ⟨after, hread, rfl, hidentifier⟩ := operatorAndName?_eq_some_iff.1 hsubject
  -- behind blanks the operator is read, and what is behind it is the identifier
  have hread_operator : ∀ blanks : List Char, (∀ c ∈ blanks, Text.isBlank c = true) →
      behind = blanks ++ (operator.text.toList ++ rest) → IsOperand (Text.trimStart rest) := by
    rintro blanks hblanks rfl
    rw [read?_compared hblanks hoperator hrest] at hread
    obtain ⟨-, rfl⟩ := Prod.mk.inj (Option.some.inj hread)
    exact isOperand_of_isIdentifier hidentifier
  rcases List.append_eq_append_iff.1 htext with ⟨more, hoperand, hmore⟩ | ⟨less, hless, hbehind⟩
  · rcases List.append_eq_append_iff.1 hmore with ⟨inner, rfl, hinner⟩ | ⟨blanks, hblanks, hbehind⟩
    · cases inner with
      | nil => exact hread_operator [] (by simp) hinner.symm
      | cons mark inner =>
        -- the literal holds the operator's first character, which stands in no literal that starts
        -- like a name
        obtain ⟨first, tail, hfirst, hmark⟩ := Comparator.exists_text hoperator
        obtain ⟨hword, hblank, -, -⟩ := Comparator.plain_of_mem_marks hmark
        rw [hfirst] at hinner
        obtain ⟨rfl, -⟩ := List.cons.inj hinner
        obtain ⟨c, word, rfl⟩ := List.exists_cons_of_ne_nil (Text.ne_nil_of_isIdentifier hname)
        obtain ⟨hstart, -⟩ := Text.isIdentifier_cons.1 hname
        have hhead : (Text.trim operand).head? = some c :=
          Text.head?_trim_eq (by rw [hoperand]; rfl) (Text.plain_of_isIdentifierStart hstart).1
        have hmem : first ∈ Text.trim operand := (Text.mem_trim_iff hblank).2 (by simp [hoperand])
        rw [isLiteral_eq_false hhead hstart hmem hword] at hliteral
        cases hliteral
    · exact hread_operator blanks (fun c hc => hgap c (by simp [hblanks, hc])) hbehind
  · cases less with
    | nil => exact hread_operator gap hgap hbehind
    | cons c less =>
      -- a character of the name starts no operator
      have hword : Text.isWord c = true := Text.isWord_of_mem hname c (by simp [hless])
      have hblank : Text.isBlank c = false := by
        refine Bool.eq_false_iff.2 fun hblank => ?_
        rw [Text.isWord_of_isBlank hblank] at hword
        cases hword
      rw [hbehind, List.cons_append, Text.trimStart,
        List.dropWhile_cons_of_neg (by simp [hblank])] at hread
      obtain ⟨mark, hmark, hhead⟩ := Comparator.head?_of_read? hread
      obtain rfl := Option.some.inj hhead
      rw [(Comparator.plain_of_mem_marks hmark).1] at hword
      cases hword

end Compared

end Condition

/-! ### The parts of a recognized shape -/

namespace AtomShape

variable {text : String} {shape : AtomShape}

theorem of?_eq_some (h : of? text = some shape) :
    Condition.emptiness? (Condition.stripParenthesesChars text.toList) = some shape ∨
      Condition.subjectFirst? (Condition.stripParenthesesChars text.toList) = some shape ∨
      Condition.subjectLast? (Condition.stripParenthesesChars text.toList) = some shape ∨
      Condition.bareName? (Condition.stripParenthesesChars text.toList) = some shape := by
  unfold of? at h
  simp only [Option.orElse_eq_orElse, Option.orElse_eq_or, Option.or_eq_some_iff] at h
  tauto

/-- The name that a recognized shape is about is an identifier. -/
theorem isIdentifier_subject (h : of? text = some shape) :
    Text.isIdentifier shape.subject.toList = true := by
  rcases of?_eq_some h with h | h | h | h
  · obtain ⟨subject, predicate, rest, hname, rfl⟩ := Condition.emptiness?_eq_some h
    simpa [AtomShape.subject] using (Text.identifier?_eq_some_iff.1 hname).1
  · obtain ⟨subject, behind, operator, rest, hname, -, -, rfl⟩ :=
      Condition.subjectFirst?_eq_some_iff.1 h
    simpa [AtomShape.subject] using (Text.identifier?_eq_some_iff.1 hname).1
  · obtain ⟨operand, rest, operator, subject, -, -, hname, -, rfl⟩ :=
      Condition.subjectLast?_eq_some h
    obtain ⟨-, -, -, hsubject⟩ := Condition.operatorAndName?_eq_some_iff.1 hname
    simpa [AtomShape.subject] using hsubject
  · obtain ⟨hname, rfl⟩ := Condition.bareName?_eq_some h
    simpa [AtomShape.subject] using hname

/-- The operator of a recognized comparison is a known one. -/
theorem known_of_comparison {subject : String} {operator : Option Comparator}
    {operand : Option String}
    (h : of? text = some (.comparison subject operator operand)) :
    ∃ known ∈ Comparator.all, operator = some known := by
  rcases of?_eq_some h with h | h | h | h
  · obtain ⟨_, _, _, -, hshape⟩ := Condition.emptiness?_eq_some h
    cases hshape
  · obtain ⟨_, _, known, _, -, hread, -, hshape⟩ := Condition.subjectFirst?_eq_some_iff.1 h
    cases hshape
    exact ⟨known, (Comparator.read?_eq_some hread).1, rfl⟩
  · obtain ⟨_, _, known, _, -, -, hname, -, hshape⟩ := Condition.subjectLast?_eq_some h
    obtain ⟨_, hread, -, -⟩ := Condition.operatorAndName?_eq_some_iff.1 hname
    cases hshape
    exact ⟨known.flip, Comparator.flip_known (Comparator.read?_eq_some hread).1, rfl⟩
  · cases (Condition.bareName?_eq_some h).2

theorem of?_trimmed (text : String) : of? (trimmed text) = of? text := by
  unfold of?
  rw [toList_trimmed, Condition.stripParenthesesChars_trim]

/-- A text with a parenthesis in front that does not wrap it has no shape. -/
theorem of?_eq_none_of_head? (h : (Condition.stripParenthesesChars text.toList).head? = some '(') :
    of? text = none := by
  rw [Option.eq_none_iff_forall_ne_some]
  intro shape hshape
  have hforms := of?_eq_some hshape
  obtain ⟨rest, hrest⟩ := List.head?_eq_some_iff.1 h
  rw [hrest] at hforms
  have hname : Text.identifier? ('(' :: rest) = none := rfl
  rcases hforms with h | h | h | h
  · obtain ⟨_, _, _, hidentifier, -⟩ := Condition.emptiness?_eq_some h
    rw [hname] at hidentifier
    cases hidentifier
  · obtain ⟨_, _, _, _, hidentifier, -⟩ := Condition.subjectFirst?_eq_some_iff.1 h
    rw [hname] at hidentifier
    cases hidentifier
  · obtain ⟨operand, behind, _, _, hne, htext, -, hliteral, -⟩ := Condition.subjectLast?_eq_some h
    obtain ⟨c, operand, rfl⟩ := List.exists_cons_of_ne_nil hne
    obtain rfl := (List.cons.inj htext).1
    obtain ⟨tail, htail⟩ := List.head?_eq_some_iff.1
      (Text.head?_trim_eq (rfl : ('(' :: operand).head? = some '(') (by decide))
    rw [htail, Condition.isLiteral_parenthesis] at hliteral
    cases hliteral
  · exact absurd (Text.isIdentifier_cons.1 (Condition.bareName?_eq_some h).1).1 (by decide)

/-- **A text in parentheses has the shape of the text if the parentheses belong together, and none
if they do not.** -/
theorem of?_parenthesized (text : String) :
    of? ("(" ++ text ++ ")") = if Condition.isWrapped ("(" ++ text ++ ")").toList then of? text
      else none := by
  have hchars : ("(" ++ text ++ ")").toList = '(' :: (text.toList ++ [')']) := by simp
  have hstrip := Condition.stripParenthesesChars_parenthesized text.toList
  rw [← hchars] at hstrip
  split_ifs at hstrip ⊢
  · unfold of?
    rw [hstrip]
  · exact of?_eq_none_of_head? (by rw [hstrip, hchars]; rfl)

/-- **A text in layers of parentheses has the shape of the text, and none if a beginning of the text
closes more parentheses than it opens.** -/
theorem of?_enclosed {inner : List Char} {layers : ℕ}
    (h : Condition.Enclosed inner layers text.toList) :
    of? text = if 0 < layers ∧ Condition.Overcloses inner then none
      else of? (String.ofList inner) := by
  split_ifs with hkept
  · exact of?_eq_none_of_head? (h.head?_strip hkept.2 hkept.1)
  · have hstrip := h.strip (by rwa [not_and_or, Nat.pos_iff_ne_zero, not_not] at hkept)
    unfold of?
    rw [hstrip, String.toList_ofList]

section Compared

variable {name gap rest : List Char} {operator : Comparator} (hname : Text.isIdentifier name = true)
  (hgap : ∀ c ∈ gap, Text.isBlank c = true) (hoperator : operator ∈ Comparator.all)
  (hrest : rest.head? ≠ some '=')
  (hchars : Condition.stripParenthesesChars text.toList =
    name ++ (gap ++ (operator.text.toList ++ rest)))

include hname hgap hoperator hrest hchars

/-- A name, an operator and an operand are a comparison. -/
theorem of?_eq_comparison (hoperand : Condition.IsOperand (Text.trimStart rest)) :
    of? text = some (.comparison (String.ofList name) operator
      (String.ofList (Text.trimStart rest))) := by
  unfold of?
  simp only [hchars, Condition.emptiness?_compared hname hgap hoperator,
    Condition.subjectFirst?_compared hname hgap hoperator hrest hoperand]
  rfl

/-- A name and an operator are a comparison only with an operand behind them, whatever the operator
is. -/
theorem isOperand_of_comparison {subject : String} {known : Option Comparator}
    {operand : Option String}
    (h : of? text = some (.comparison subject known operand)) :
      Condition.IsOperand (Text.trimStart rest) := by
  have hforms := of?_eq_some h
  rw [hchars] at hforms
  rcases hforms with h | h | h | h
  · rw [Condition.emptiness?_compared hname hgap hoperator] at h
    cases h
  · exact Condition.isOperand_of_subjectFirst? hname hgap hoperator hrest h
  · exact Condition.isOperand_of_subjectLast? hname hgap hoperator hrest h
  · cases (Condition.bareName?_eq_some h).2

end Compared

end AtomShape

end BranchCover
