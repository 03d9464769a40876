import BranchCover.Proofs.Condition.Decomposition
import BranchCover.Proofs.Condition.Parentheses

/-!
# Wrapping parentheses and literals

A condition is taken apart by the parentheses outside of its literals, and wrapping parentheses are
taken off by all parentheses. So a pair may be taken off that does not belong together outside of
the literals, and one that does may be left.

* `depthOutside`: how many parentheses are open behind a text, those in literals left out.
* `BalancedOutside`: the texts whose parentheses outside of literals are balanced.
* `Paired`: layers of parentheses that belong together outside of literals.
* `ParenthesesOutside`: the texts without a parenthesis in a literal.
* `stripParentheses_balanced`: what is taken off a balanced text.
-/

namespace BranchCover.Condition

variable {text inner front back : List Char} {c : Char} {point : ScanPoint}

/-! ### Depth outside of literals -/

namespace ScanPoint

theorem after_cons (point : ScanPoint) (c : Char) (text : List Char) :
    point.after (c :: text) = (point.next c).after text := rfl

theorem after_append (point : ScanPoint) (first second : List Char) :
    point.after (first ++ second) = (point.after first).after second := List.foldl_append ..

/-- Parentheses that are open before a character are open behind it. -/
theorem next_raised (point : ScanPoint) (c : Char) (n : Int) :
    next { point with depth := point.depth + n } c =
    { point.next c with depth := (point.next c).depth + n } := by
  obtain ⟨depth, quoting⟩ := point
  cases quoting with
  | escaped mark => rfl
  | inside mark => rfl
  | outside =>
    simp only [next]
    split_ifs
    · rfl
    · rw [Int.add_right_comm]
    · rw [Int.sub_eq_add_neg, Int.sub_eq_add_neg, Int.add_right_comm]
    · rfl

theorem after_raised (point : ScanPoint) (n : Int) (text : List Char) :
    after { point with depth := point.depth + n } text =
    { point.after text with depth := (point.after text).depth + n } := by
  induction text generalizing point with
  | nil => rfl
  | cons c text ih => rw [after_cons, next_raised, ih, after_cons]

theorem depth_next_of_isFlat (h : c ≠ '(' ∧ c ≠ ')') : (point.next c).depth = point.depth := by
  obtain ⟨depth, quoting⟩ := point
  cases quoting with
  | escaped mark => rfl
  | inside mark => rfl
  | outside =>
    simp only [next, h, if_false]
    split_ifs <;> rfl

theorem depth_after_of_isFlat (h : IsFlat text) : (point.after text).depth = point.depth := by
  induction text generalizing point with
  | nil => rfl
  | cons c text ih =>
    obtain ⟨hopen, hclose⟩ := h
    rw [List.mem_cons, not_or] at hopen hclose
    rw [after_cons, ih ⟨hopen.2, hclose.2⟩,
      depth_next_of_isFlat ⟨Ne.symm hopen.1, Ne.symm hclose.1⟩]

theorem after_of_isBlank (h : ∀ c ∈ text, Text.isBlank c = true) : after {} text = {} := by
  refine (scan_of_isPlain fun c hc => ?_).1
  have hblank := h c hc
  simp only [isPlain, isQuote, Bool.and_eq_true, Bool.not_eq_true', Bool.or_eq_false_iff,
    beq_eq_false_iff_ne, bne_iff_ne]
  refine ⟨⟨⟨⟨⟨?_, ?_⟩, ?_⟩, ?_⟩, ?_⟩, ?_⟩ <;> rintro rfl <;> exact absurd hblank (by decide)

end ScanPoint

/-- How many parentheses are open behind a text, those in literals left out. -/
def depthOutside (text : List Char) : Int := (ScanPoint.after {} text).depth

theorem depthOutside_opening (text : List Char) :
    depthOutside ('(' :: text) = depthOutside text + 1 :=
  congrArg ScanPoint.depth (ScanPoint.after_raised {} 1 text)

/-- A parenthesis behind a text closes one unless it stands in a literal. -/
theorem depthOutside_closing (text : List Char) :
    depthOutside (text ++ [')']) = depthOutside text ∨
    depthOutside (text ++ [')']) = depthOutside text - 1 := by
  rw [depthOutside, depthOutside, ScanPoint.after_append]
  generalize ScanPoint.after {} text = point
  obtain ⟨depth, quoting⟩ := point
  cases quoting with
  | escaped mark => exact Or.inl rfl
  | inside mark => exact Or.inl rfl
  | outside => exact Or.inr rfl

theorem depthOutside_blank_append (h : ∀ c ∈ front, Text.isBlank c = true) (text : List Char) :
    depthOutside (front ++ text) = depthOutside text := by
  rw [depthOutside, ScanPoint.after_append, ScanPoint.after_of_isBlank h, depthOutside]

theorem depthOutside_append_blank (h : ∀ c ∈ back, Text.isBlank c = true) (text : List Char) :
    depthOutside (text ++ back) = depthOutside text := by
  rw [depthOutside, ScanPoint.after_append, ScanPoint.depth_after_of_isFlat (isFlat_of_isBlank h),
    depthOutside]

/-! ### Balanced texts -/

/-- A beginning of the text closes more parentheses than it opens, those in literals left out. -/
def OverclosesOutside (text : List Char) : Prop :=
  ∃ before, before <+: text ∧ depthOutside before < 0

/-- The parentheses of a text outside of its literals are balanced. -/
structure BalancedOutside (text : List Char) : Prop where
  not_overcloses : ¬OverclosesOutside text
  closed : depthOutside text = 0

instance : DecidablePred OverclosesOutside := fun text =>
  decidable_of_iff (∃ before ∈ text.inits, depthOutside before < 0) (by simp [OverclosesOutside])

instance : DecidablePred BalancedOutside := fun text =>
  decidable_of_iff (¬OverclosesOutside text ∧ depthOutside text = 0) ⟨fun h => ⟨h.1, h.2⟩, fun h =>
    ⟨h.1, h.2⟩⟩

/-- Blanks around a text do not count. -/
theorem overclosesOutside_trim_iff : OverclosesOutside (Text.trim text) ↔
    OverclosesOutside text := by
  obtain ⟨front, back, hfront, hback, htext⟩ := Text.exists_pad text
  constructor
  · rintro ⟨before, hbefore, hdepth⟩
    refine ⟨front ++ before, ?_, by rwa [depthOutside_blank_append hfront]⟩
    rw [htext, List.prefix_append_right_inj]
    exact hbefore.trans (List.prefix_append _ _)
  · rintro ⟨before, hbefore, hdepth⟩
    rw [htext] at hbefore
    rcases List.prefix_or_prefix_of_prefix hbefore (List.prefix_append front _) with hshort |
      ⟨before, rfl⟩
    · -- in front of the trimmed text nothing is open
      have hzero := depthOutside_blank_append (fun c hc => hfront c (hshort.subset hc)) []
      rw [List.append_nil] at hzero
      rw [hzero] at hdepth
      exact absurd hdepth (by decide)
    · rw [depthOutside_blank_append hfront] at hdepth
      rw [List.prefix_append_right_inj] at hbefore
      rcases List.prefix_or_prefix_of_prefix hbefore (List.prefix_append _ back) with hshort |
        ⟨before, rfl⟩
      · exact ⟨before, hshort, hdepth⟩
      · rw [List.prefix_append_right_inj] at hbefore
        rw [depthOutside_append_blank fun c hc => hback c (hbefore.subset hc)] at hdepth
        exact ⟨_, List.prefix_rfl, hdepth⟩

theorem balancedOutside_trim_iff : BalancedOutside (Text.trim text) ↔ BalancedOutside text := by
  have hdepth : depthOutside (Text.trim text) = depthOutside text := by
    obtain ⟨front, back, hfront, hback, htext⟩ := Text.exists_pad text
    conv_rhs => rw [htext]
    rw [depthOutside_blank_append hfront, depthOutside_append_blank hback]
  constructor
  · rintro ⟨hnot, hclosed⟩
    exact ⟨mt overclosesOutside_trim_iff.2 hnot, hdepth ▸ hclosed⟩
  · rintro ⟨hnot, hclosed⟩
    exact ⟨mt overclosesOutside_trim_iff.1 hnot, hdepth ▸ hclosed⟩

theorem OverclosesOutside.of_parenthesized (h : OverclosesOutside ('(' :: (inner ++ [')']))) :
    OverclosesOutside inner := by
  obtain ⟨before, hbefore, hdepth⟩ := h
  rcases List.prefix_cons_iff.1 hbefore with rfl | ⟨before, rfl, hinner⟩
  · exact absurd hdepth (by decide)
  · rw [depthOutside_opening] at hdepth
    rcases List.prefix_concat_iff.1 hinner with rfl | hshort
    · have hclosing := depthOutside_closing inner
      exact ⟨inner, List.prefix_rfl, by omega⟩
    · exact ⟨before, hshort, by omega⟩

/-- **What balanced parentheses are around is balanced unless a beginning of it closes too
much.** -/
theorem BalancedOutside.parenthesized_iff (h : BalancedOutside ('(' :: (inner ++ [')']))) :
    BalancedOutside inner ↔ ¬OverclosesOutside inner := by
  refine ⟨fun hinner => hinner.not_overcloses, fun hnot => ⟨hnot, ?_⟩⟩
  have hclosed := h.closed
  rw [depthOutside_opening] at hclosed
  -- a last parenthesis in a literal would leave the inner text one below
  rcases depthOutside_closing inner with hliteral | hclosing
  · exact absurd ⟨inner, List.prefix_rfl, by omega⟩ hnot
  · omega

/-! ### What is taken off -/

/-- A text is trimmed, and as long as parentheses that belong together are around it, these are
taken off. -/
theorem strip_induction {motive : List Char → Prop}
    (bare : ∀ text, isWrapped (Text.trim text) = false → motive text)
    (wrapped : ∀ text inner, Text.trim text = '(' :: (inner ++ [')']) → ¬Overcloses inner →
      motive inner → motive text)
    (text : List Char) : motive text := by
  by_cases hwrapped : isWrapped (Text.trim text) = true
  · obtain ⟨inner, hinner, hnot⟩ := isWrapped_iff.1 hwrapped
    have hlength : inner.length < text.length := by
      have hle := Text.length_trim_le text
      rw [hinner, List.length_cons, List.length_append] at hle
      omega
    exact wrapped text inner hinner hnot (strip_induction bare wrapped inner)
  · exact bare text (by simpa using hwrapped)
termination_by text.length

theorem stripParenthesesChars_of_trim (htrim : Text.trim text = '(' :: (inner ++ [')']))
    (h : ¬Overcloses inner) :
    stripParenthesesChars text = stripParenthesesChars inner := by
  rw [stripParenthesesChars_of_isWrapped (isWrapped_iff.2 ⟨inner, htrim, h⟩), htrim,
    Text.innerText_cons_concat]

theorem length_stripParenthesesChars_le (text : List Char) :
    (stripParenthesesChars text).length ≤ text.length := by
  induction text using strip_induction with
  | bare text hbare =>
    rw [stripParenthesesChars_of_not_isWrapped hbare]
    exact Text.length_trim_le text
  | wrapped text inner htrim hnot ih =>
    have hle := Text.length_trim_le text
    rw [htrim, List.length_cons, List.length_append] at hle
    rw [stripParenthesesChars_of_trim htrim hnot]
    omega

/-- **Parentheses around a text do not count exactly if no beginning of the text closes more than it
opens.** -/
theorem stripParenthesesChars_parenthesized_eq_iff :
    stripParenthesesChars ('(' :: (text ++ [')'])) = stripParenthesesChars text ↔
    ¬Overcloses text := by
  rw [stripParenthesesChars_parenthesized, ← isWrapped_parenthesized]
  split_ifs with hwrapped
  · exact iff_of_true rfl hwrapped
  · refine iff_of_false (fun heq => ?_) hwrapped
    have hle := length_stripParenthesesChars_le text
    rw [← heq, List.length_cons, List.length_append] at hle
    omega

theorem OverclosesOutside.strip (h : OverclosesOutside text) :
    OverclosesOutside (stripParenthesesChars text) := by
  induction text using strip_induction with
  | bare text hbare =>
    rw [stripParenthesesChars_of_not_isWrapped hbare]
    exact overclosesOutside_trim_iff.2 h
  | wrapped text inner htrim hnot ih =>
    rw [stripParenthesesChars_of_trim htrim hnot]
    rw [← overclosesOutside_trim_iff, htrim] at h
    exact ih h.of_parenthesized

/-- A text is another one in layers of parentheses, with blanks around each. The parentheses of a
layer belong together outside of literals: what is between them is balanced. -/
inductive Paired (inner : List Char) : List Char → Prop
  | bare {text : List Char} (htrim : Text.trim text = inner) : Paired inner text
  | parenthesized {text between : List Char} (htrim : Text.trim text = '(' :: (between ++ [')']))
    (hbalanced : BalancedOutside between) (hbetween : Paired inner between) : Paired inner text

theorem Paired.balancedOutside (h : Paired inner text) (htext : BalancedOutside text) :
    BalancedOutside inner := by
  induction h with
  | bare htrim => exact htrim ▸ balancedOutside_trim_iff.2 htext
  | parenthesized _ hbalanced _ ih => exact ih hbalanced

/-- **What is left of a balanced text is balanced exactly if each pair that is taken off belongs
together.** -/
theorem balancedOutside_strip_iff (h : BalancedOutside text) :
    BalancedOutside (stripParenthesesChars text) ↔ Paired (stripParenthesesChars text) text := by
  refine ⟨fun hstrip => ?_, fun hpaired => hpaired.balancedOutside h⟩
  induction text using strip_induction with
  | bare text hbare => exact .bare (stripParenthesesChars_of_not_isWrapped hbare).symm
  | wrapped text inner htrim hnot ih =>
    rw [stripParenthesesChars_of_trim htrim hnot] at hstrip ⊢
    rw [← balancedOutside_trim_iff, htrim] at h
    have hinner := h.parenthesized_iff.2 fun hover => hstrip.not_overcloses hover.strip
    exact .parenthesized htrim hinner (ih hinner hstrip)

/-! ### Literals without parentheses -/

/-- No parenthesis of a text stands in a literal. -/
def ParenthesesOutside (point : ScanPoint) : List Char → Prop
  | [] => True
  | c :: rest => (c = '(' ∨ c = ')' → point.quoting = .outside) ∧
      ParenthesesOutside (point.next c) rest

instance decidableParenthesesOutside : (point : ScanPoint) → (text : List Char) →
    Decidable (ParenthesesOutside point text)
  | _, [] => .isTrue trivial
  | point, c :: rest =>
    have := decidableParenthesesOutside (point.next c) rest
    inferInstanceAs (Decidable ((c = '(' ∨ c = ')' → point.quoting = .outside) ∧
      ParenthesesOutside (point.next c) rest))

theorem parenthesesOutside_append : ParenthesesOutside point (front ++ back) ↔
    ParenthesesOutside point front ∧ ParenthesesOutside (point.after front) back := by
  induction front generalizing point with
  | nil => exact ⟨fun h => ⟨trivial, h⟩, And.right⟩
  | cons c front ih =>
    rw [List.cons_append, ParenthesesOutside, ParenthesesOutside, ih, and_assoc,
      ScanPoint.after_cons]

/-- Parentheses that are open do not count. -/
theorem parenthesesOutside_raised (n : Int) :
    ParenthesesOutside { point with depth := point.depth + n } text ↔
    ParenthesesOutside point text := by
  induction text generalizing point with
  | nil => rfl
  | cons c text ih => rw [ParenthesesOutside, ParenthesesOutside, ScanPoint.next_raised, ih]

/-- Where no parenthesis stands in a literal, all count. -/
theorem depth_after_of_parenthesesOutside (h : ParenthesesOutside point text) :
    (point.after text).depth = point.depth + text.count '(' - text.count ')' := by
  induction text generalizing point with
  | nil => simp [ScanPoint.after]
  | cons c text ih =>
    obtain ⟨hc, htext⟩ := h
    rw [ScanPoint.after_cons, ih htext]
    by_cases hparenthesis : c = '(' ∨ c = ')'
    · obtain ⟨depth, quoting⟩ := point
      obtain rfl : quoting = .outside := hc hparenthesis
      rcases hparenthesis with rfl | rfl
      · simp [ScanPoint.next, isQuote]
        omega
      · simp [ScanPoint.next, isQuote]
        omega
    · rw [not_or] at hparenthesis
      rw [ScanPoint.depth_next_of_isFlat hparenthesis, List.count_cons_of_ne hparenthesis.1,
        List.count_cons_of_ne hparenthesis.2]

theorem overcloses_iff_of_parenthesesOutside (h : ParenthesesOutside {} text) :
    Overcloses text ↔ OverclosesOutside text := by
  refine exists_congr fun before => and_congr_right ?_
  rintro ⟨behind, rfl⟩
  have hdepth := depth_after_of_parenthesesOutside (parenthesesOutside_append.1 h).1
  have hstart : ScanPoint.depth {} = 0 := rfl
  rw [depthOutside, hdepth]
  omega

theorem ParenthesesOutside.trim (h : ParenthesesOutside {} text) : ParenthesesOutside {}
    (Text.trim text) := by
  obtain ⟨front, back, hfront, hback, htext⟩ := Text.exists_pad text
  rw [htext, parenthesesOutside_append, ScanPoint.after_of_isBlank hfront,
    parenthesesOutside_append] at h
  exact h.2.1

theorem ParenthesesOutside.of_parenthesized (h : ParenthesesOutside {} ('(' :: (inner ++ [')']))) :
    ParenthesesOutside {} inner := by
  have hraised : ParenthesesOutside {} (inner ++ [')']) := (parenthesesOutside_raised 1).1 h.2
  exact (parenthesesOutside_append.1 hraised).1

/-- **A balanced text with no parenthesis in a literal is left balanced.** -/
theorem BalancedOutside.strip (h : BalancedOutside text) (hliterals : ParenthesesOutside {} text) :
    BalancedOutside (stripParenthesesChars text) := by
  induction text using strip_induction with
  | bare text hbare =>
    rw [stripParenthesesChars_of_not_isWrapped hbare]
    exact balancedOutside_trim_iff.2 h
  | wrapped text inner htrim hnot ih =>
    rw [← balancedOutside_trim_iff, htrim] at h
    have hinner : ParenthesesOutside {} inner := .of_parenthesized (htrim ▸ hliterals.trim)
    rw [stripParenthesesChars_of_trim htrim hnot]
    exact ih (h.parenthesized_iff.2 (mt (overcloses_iff_of_parenthesesOutside hinner).2 hnot))
      hinner

/-! ### Texts -/

/-- **Wrapping parentheses of a text that is balanced outside of its literals.** Parentheses around
it do not count exactly if no beginning of it closes more parentheses than it opens, those in
literals included. What is left of it is balanced outside of literals exactly if each pair that is
taken off belongs together there. Both hold if no parenthesis stands in a literal. -/
theorem stripParentheses_balanced {text : String} (h : BalancedOutside text.toList) :
    (stripParentheses ("(" ++ text ++ ")") = stripParentheses text ↔ ¬Overcloses text.toList) ∧
    (BalancedOutside (stripParentheses text).toList ↔
      Paired (stripParentheses text).toList text.toList) ∧
    (ParenthesesOutside {} text.toList →
      ¬Overcloses text.toList ∧ BalancedOutside (stripParentheses text).toList) := by
  have hchars : (stripParentheses text).toList = stripParenthesesChars text.toList :=
    String.toList_ofList
  have hparenthesized : ("(" ++ text ++ ")").toList = '(' :: (text.toList ++ [')']) := by simp
  rw [hchars]
  refine ⟨?_, balancedOutside_strip_iff h, fun hliterals => ⟨?_, h.strip hliterals⟩⟩
  · rw [← stripParenthesesChars_parenthesized_eq_iff, ← String.toList_inj, hchars, stripParentheses,
      hparenthesized, String.toList_ofList]
  · exact mt (overcloses_iff_of_parenthesesOutside hliterals).1 h.not_overcloses

/-- A quote that is escaped in a literal. -/
theorem stripParentheses_balanced_escaped :
    BalancedOutside "(f(x) != '\\'')".toList ∧ ParenthesesOutside {} "(f(x) != '\\'')".toList ∧
      stripParentheses "((f(x) != '\\''))" = stripParentheses "(f(x) != '\\'')" ∧
      BalancedOutside (stripParentheses "(f(x) != '\\'')").toList := by
  have hbalanced : BalancedOutside "(f(x) != '\\'')".toList := by decide
  have hliterals : ParenthesesOutside {} "(f(x) != '\\'')".toList := by decide
  obtain ⟨hparenthesized, -, hboth⟩ := stripParentheses_balanced hbalanced
  obtain ⟨hnot, hstrip⟩ := hboth hliterals
  exact ⟨hbalanced, hliterals, hparenthesized.2 hnot, hstrip⟩

/-- A closing parenthesis in a literal keeps a pair around it, and an opening one lets a pair be
taken off that does not belong together. -/
theorem stripParentheses_literal :
    BalancedOutside "c != ')'".toList ∧
    stripParentheses "(c != ')')" ≠ stripParentheses "c != ')'" ∧
      BalancedOutside "(f(\"(\")) == (g(\")\"))".toList ∧
      ¬BalancedOutside (stripParentheses "(f(\"(\")) == (g(\")\"))").toList := by
  decide

end BranchCover.Condition
