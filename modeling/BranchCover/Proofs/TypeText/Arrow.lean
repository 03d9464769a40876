import BranchCover.Proofs.Text.Scan
import BranchCover.Proofs.Text.Trim
import BranchCover.TypeText

/-!
# Arrows in types

A type counts as a function type if there is an arrow anywhere in it. It is taken apart at its first
arrow outside brackets, once the question marks at its end and one pair of parentheses around it are
gone; without such an arrow it has no parameters, and `Unit` as its result.

* `isFunction_iff`: the types that count as function types.
* `length_functionParts`: a result that is read is shorter than its type.
* `Crosses`: the texts that a scan for an arrow reads without finding one.
* `splitArrow?_append`: where the arrow is found.
-/

namespace BranchCover.TypeText

variable {text read rest before after : List Char} {type : String} {depth start finish : Int}

/-! ### Types with an arrow -/

theorem hasParentheses_iff : hasParentheses text = true ↔
    ∃ inner, text = '(' :: (inner ++ [')']) := by
  constructor
  · intro h
    obtain ⟨hfirst, hlast⟩ := Bool.and_eq_true_iff.1 h
    obtain ⟨rest, rfl⟩ := List.head?_eq_some_iff.1 (beq_iff_eq.1 hfirst)
    obtain ⟨inner, hinner⟩ := List.getLast?_eq_some_iff.1 (beq_iff_eq.1 hlast)
    cases inner with
    | nil => exact absurd hinner (by simp)
    | cons c inner =>
      obtain ⟨rfl, rfl⟩ := List.cons.inj hinner
      exact ⟨inner, rfl⟩
  · rintro ⟨inner, rfl⟩
    rw [hasParentheses, ← List.cons_append, List.getLast?_concat]
    rfl

/-- An arrow in a text is in the part that is left when its ends are dropped. -/
theorem arrow_infix_iff (hbefore : '-' ∉ before) (hafter : '>' ∉ after) :
    ['-', '>'] <:+: before ++ (text ++ after) ↔ ['-', '>'] <:+: text := by
  have hbehind : ['-'] ++ ['>'] <:+: text ++ after ↔ ['-'] ++ ['>'] <:+: text :=
    Text.infix_append_of_notMem_right hafter
  exact (Text.infix_append_of_notMem hbefore).trans hbehind

theorem arrow_infix_trim (text : List Char) : ['-', '>'] <:+: Text.trim text ↔
    ['-', '>'] <:+: text := by
  obtain ⟨before, after, hbefore, hafter, htext⟩ := Text.exists_pad text
  conv_rhs => rw [htext]
  refine (arrow_infix_iff (fun h => ?_) fun h => ?_).symm
  · exact absurd (hbefore _ h) (by decide)
  · exact absurd (hafter _ h) (by decide)

theorem arrow_infix_withoutMarks : ['-', '>'] <:+: withoutMarks type ↔
    ['-', '>'] <:+: type.toList := by
  have hmarks : Text.trim type.toList =
      [] ++ (withoutMarks type ++ (Text.trim type.toList).rtakeWhile (· == '?')) := by
    rw [withoutMarks, Text.dropEndWhile_eq_rdropWhile, List.nil_append,
      List.rdropWhile_append_rtakeWhile]
  rw [← arrow_infix_trim type.toList, hmarks]
  refine (arrow_infix_iff List.not_mem_nil fun h => ?_).symm
  have := List.mem_rtakeWhile_imp h
  exact absurd this (by decide)

/-- **A type counts as a function type exactly if there is an arrow in its text.** -/
theorem isFunction_iff : isFunction type = true ↔ ['-', '>'] <:+: type.toList := by
  rw [← arrow_infix_withoutMarks, isFunction]
  split_ifs with h
  · obtain ⟨inner, hinner⟩ := hasParentheses_iff.1 h
    rw [Text.contains_iff, arrow_infix_trim, hinner, Text.innerText_cons_concat]
    have hfront : '-' ∉ ['('] := by decide
    exact (arrow_infix_iff hfront (by decide)).symm
  · exact Text.contains_iff

/-! ### Lengths -/

theorem length_splitArrow? {previous : Char}
    (h : splitArrow? read previous depth text = some (before, after)) :
    before.length + after.length < read.length + text.length := by
  induction text generalizing read previous depth with
  | nil => cases h
  | cons c rest ih =>
    rw [splitArrow?] at h
    rw [List.length_cons]
    split_ifs at h
    · have := ih h
      simp only [List.length_cons] at this
      omega
    · have := ih h
      simp only [List.length_cons] at this
      omega
    · obtain ⟨rfl, rfl⟩ := Prod.mk.inj (Option.some.inj h)
      rw [List.length_reverse, List.length_tail]
      omega
    · have := ih h
      simp only [List.length_cons] at this
      omega

/-- The text in which the arrow of a function type is looked for. -/
def arrowText (type : String) : List Char :=
  let text := Text.trim (withoutMarks type)
  if hasParentheses text && Text.contains ['-', '>'] (Text.innerText text) then
    Text.trim (Text.innerText text) else text

theorem length_withoutMarks_le (type : String) : (withoutMarks type).length ≤ type.length :=
  (Text.isPrefix_dropEndWhile _ _).length_le.trans (Text.length_trim_le type.toList)

theorem length_arrowText_le (type : String) : (arrowText type).length ≤ type.length := by
  have hmarks := length_withoutMarks_le type
  have htrim := Text.length_trim_le (withoutMarks type)
  have hinner := Text.length_trim_le (Text.innerText (Text.trim (withoutMarks type)))
  rw [Text.length_innerText] at hinner
  rw [arrowText]
  split_ifs <;> omega

/-- The parameter types in the text before an arrow. -/
def parameterTexts (text : List Char) : List String :=
  let text := Text.trim text
  let text := if hasParentheses text then Text.innerText text else text
  ((Text.splitAtChars (· == ',') text).map Text.trim).filter (!·.isEmpty) |>.map String.ofList

theorem functionParts_eq (type : String) : functionParts type =
    match splitArrow? [] ((arrowText type).getLast?.getD ' ') 0 (arrowText type) with
    | none => ([], "Unit")
    | some (before, after) => (parameterTexts before, String.ofList (Text.trim after)) := rfl

/-- A result that is read is shorter than its type. -/
theorem length_functionParts (type : String) :
    functionParts type = ([], "Unit") ∨ (functionParts type).2.length < type.length := by
  rw [functionParts_eq]
  cases hsplit : splitArrow? [] ((arrowText type).getLast?.getD ' ') 0 (arrowText type) with
  | none => exact Or.inl rfl
  | some parts =>
    have hlength := length_splitArrow? hsplit
    have htrim := Text.length_trim_le parts.2
    have htype := length_arrowText_le type
    rw [List.length_nil] at hlength
    refine Or.inr ?_
    rw [String.length_ofList]
    omega

/-! ### Scans for an arrow -/

/-- A text that a scan for an arrow reads without finding one, from one depth of brackets to
another. -/
def Crosses (start finish : Int) (text : List Char) : Prop :=
  ∀ read previous rest, splitArrow? read previous start (text ++ rest) =
    splitArrow? (text.reverse ++ read) (text.getLast?.getD previous) finish rest

theorem crosses_nil (depth : Int) : Crosses depth depth [] := fun _ _ _ => rfl

theorem Crosses.append {middle : Int} (h : Crosses start middle before)
    (hrest : Crosses middle finish after) :
    Crosses start finish (before ++ after) := by
  intro read previous rest
  rw [List.append_assoc, h, hrest, List.reverse_append, List.append_assoc, List.getLast?_append]
  cases after.getLast? <;> rfl

theorem crosses_opening {c : Char} (h : c = '(' ∨ c = '<') (depth : Int) : Crosses depth (depth + 1)
    [c] := by
  intro read previous rest
  rw [List.singleton_append, splitArrow?, if_pos h]
  rfl

theorem crosses_closing (depth : Int) : Crosses depth (depth - 1) [')'] := fun _ _ _ => rfl

/-- A character other than a bracket or a dash is read as it is. -/
theorem crosses_plain {c : Char} (h : c ∉ ['(', '<', ')', '>', '-']) (depth : Int) :
    Crosses depth depth [c] := by
  simp only [List.mem_cons, List.not_mem_nil, or_false, not_or] at h
  intro read previous rest
  simp [splitArrow?, h]

theorem crosses_of_plain (h : ∀ c ∈ text, c ∉ ['(', '<', ')', '>', '-']) (depth : Int) :
    Crosses depth depth text := by
  induction text with
  | nil => exact crosses_nil depth
  | cons c rest ih =>
    exact (crosses_plain (h c List.mem_cons_self) depth).append (ih fun d hd =>
      h d (List.mem_cons_of_mem _ hd))

/-- An arrow in brackets is read. -/
theorem crosses_arrow (h : depth ≠ 0) : Crosses depth depth ['-', '>'] := by
  intro read previous rest
  simp [splitArrow?, h]

theorem Crosses.parenthesized (h : Crosses (depth + 1) (depth + 1) text) :
    Crosses depth depth ('(' :: (text ++ [')'])) := by
  have hclosed := h.append (crosses_closing (depth + 1))
  rw [Int.add_sub_cancel] at hclosed
  exact (crosses_opening (Or.inl rfl) depth).append hclosed

/-- A text in angle brackets that does not end with a dash. -/
theorem Crosses.angled (h : Crosses (depth + 1) (depth + 1) text)
    (hlast : text.getLast? ≠ some '-') :
    Crosses depth depth ('<' :: (text ++ ['>'])) := by
  intro read previous rest
  have hopened := (crosses_opening (Or.inr rfl) depth).append h
  have hprevious : (['<'] ++ text).getLast?.getD previous ≠ '-' := by
    rw [List.getLast?_append]
    cases hend : text.getLast? with
    | none => exact (by decide : '<' ≠ '-')
    | some c =>
      rintro rfl
      exact hlast hend
  have hread := hopened read previous ('>' :: rest)
  rw [splitArrow?, if_neg (by decide), if_pos (Or.inr ⟨rfl, hprevious⟩),
    Int.add_sub_cancel] at hread
  rw [← List.cons_append, List.getLast?_concat, ← List.singleton_append,
    List.append_assoc (['<'] ++ text)]
  refine hread.trans ?_
  simp

/-- A scan finds the arrow behind a text that it reads. -/
theorem splitArrow?_append (h : Crosses 0 0 before) (read : List Char) (previous : Char)
    (after : List Char) :
    splitArrow? read previous 0 (before ++ '-' :: '>' :: after) =
      some (read.reverse ++ before, after) := by
  rw [h, splitArrow?]
  simp

/-- A text that a scan reads has no arrow to take it apart at. -/
theorem Crosses.splitArrow?_eq_none (h : Crosses 0 finish text) (previous : Char) :
    splitArrow? [] previous 0 text = none := by
  have hread := h [] previous []
  rwa [List.append_nil] at hread

end BranchCover.TypeText
