import BranchCover.Condition.Shape
import BranchCover.Proofs.Text.Scan
import BranchCover.Proofs.Text.Trim

/-!
# Wrapping parentheses

Parentheses around a text belong together unless a beginning of the text closes more parentheses
than it opens. Every parenthesis counts, in literals as well. So all layers around a text are taken
off, or at least the innermost one is left.

* `stripParenthesesChars_trim`, `stripParenthesesChars_of_isWrapped`: what does not count.
* `Overcloses`, `isWrapped_parenthesized`: the parentheses around a text belong together.
* `Enclosed`: a text in a number of layers.
* `Enclosed.strip`, `Enclosed.head?_strip`: what is left of the layers.
-/

namespace BranchCover.Condition

variable {text inner front back : List Char} {layers : ℕ}

/-! ### One layer -/

theorem two_le_length_of_isWrapped (h : isWrapped text = true) : 2 ≤ text.length := by
  match text, h with
  | [], h => exact absurd h (by decide)
  | [c], h =>
    have hboth : c = '(' ∧ c = ')' := by simpa [isWrapped, closesEarly] using h
    exact absurd (hboth.1.symm.trans hboth.2) (by decide)
  | _ :: _ :: _, _ => simp

theorem isWrapped_eq_false (h : text.head? ≠ some '(') : isWrapped text = false := by
  simp [isWrapped, h]

/-- Layers beyond the length of the text do not count. -/
theorem stripLayers_eq {m n : ℕ} (hm : text.length ≤ m) (hn : text.length ≤ n) :
    stripLayers m text = stripLayers n text := by
  induction m generalizing text n with
  | zero =>
    obtain rfl := List.length_eq_zero_iff.1 (Nat.le_zero.1 hm)
    cases n <;> rfl
  | succ m ih =>
    cases n with
    | zero =>
      obtain rfl := List.length_eq_zero_iff.1 (Nat.le_zero.1 hn)
      rfl
    | succ n =>
      rw [stripLayers, stripLayers]
      split_ifs with hwrapped
      · have htwo := two_le_length_of_isWrapped hwrapped
        have hinner : (Text.trim (Text.innerText text)).length ≤ text.length - 2 :=
          (Text.length_trim_le _).trans_eq (Text.length_innerText text)
        exact ih (by omega) (by omega)
      · rfl

/-- Blanks around a text do not count. -/
theorem stripParenthesesChars_trim (text : List Char) :
    stripParenthesesChars (Text.trim text) = stripParenthesesChars text := by
  rw [stripParenthesesChars, stripParenthesesChars, Text.trim_trim]
  exact stripLayers_eq le_rfl (Text.length_trim_le text)

theorem stripParenthesesChars_pad {before after : List Char}
    (hbefore : ∀ c ∈ before, Text.isBlank c = true)
    (hafter : ∀ c ∈ after, Text.isBlank c = true) (text : List Char) :
    stripParenthesesChars (before ++ (text ++ after)) = stripParenthesesChars text := by
  rw [← stripParenthesesChars_trim, Text.trim_pad hbefore hafter, stripParenthesesChars_trim]

/-- Parentheses that wrap all of a text do not count. -/
theorem stripParenthesesChars_of_isWrapped (h : isWrapped (Text.trim text) = true) :
    stripParenthesesChars text = stripParenthesesChars (Text.innerText (Text.trim text)) := by
  have htwo := two_le_length_of_isWrapped h
  have hle := Text.length_trim_le text
  have hinner := Text.length_innerText (Text.trim text)
  have hdeep := Text.length_trim_le (Text.innerText (Text.trim text))
  obtain ⟨n, hn⟩ : ∃ n, text.length = n + 1 := ⟨text.length - 1, by omega⟩
  rw [stripParenthesesChars, hn, stripLayers, if_pos h]
  exact stripLayers_eq (by omega) hdeep

theorem stripParenthesesChars_of_not_isWrapped (h : isWrapped (Text.trim text) = false) :
    stripParenthesesChars text = Text.trim text := by
  rw [stripParenthesesChars]
  cases text.length with
  | zero => rfl
  | succ n => rw [stripLayers, if_neg (by simp [h])]

theorem trim_parenthesized (text : List Char) :
    Text.trim ('(' :: (text ++ [')'])) = '(' :: (text ++ [')']) :=
  Text.trim_between (by decide) (by decide) text

/-- A layer of parentheses is taken off if they belong together, and kept if they do not. -/
theorem stripParenthesesChars_parenthesized (text : List Char) :
    stripParenthesesChars ('(' :: (text ++ [')'])) =
    if isWrapped ('(' :: (text ++ [')'])) then stripParenthesesChars text
      else '(' :: (text ++ [')']) := by
  have htrim := trim_parenthesized text
  split_ifs with hwrapped
  · rw [stripParenthesesChars_of_isWrapped (by rwa [htrim]), htrim, Text.innerText_cons_concat]
  · rw [stripParenthesesChars_of_not_isWrapped (by rwa [htrim, ← Bool.not_eq_true]), htrim]

/-! ### Parentheses that belong together -/

/-- A beginning of the text closes more parentheses than it opens. -/
def Overcloses (text : List Char) : Prop :=
  ∃ before, before <+: text ∧ before.count '(' < before.count ')'

theorem closesEarly_cons_concat (depth : Int) (c : Char) (text : List Char) (last : Char) :
    closesEarly depth (c :: (text ++ [last])) =
      ((if c = '(' then depth + 1 else if c = ')' then depth - 1 else depth) == 0 ||
        closesEarly (if c = '(' then depth + 1 else if c = ')' then depth - 1
          else depth) (text ++ [last])) := by
  cases text <;> rfl

/-- A depth is used up before the last character if a beginning closes as many parentheses more than
it opens. -/
theorem closesEarly_concat_iff {depth : Int} (hdepth : 0 < depth) (text : List Char) (last : Char) :
    closesEarly depth (text ++ [last]) = true ↔
      ∃ before, before <+: text ∧ depth + before.count '(' ≤ before.count ')' := by
  induction text generalizing depth with
  | nil =>
    refine iff_of_false (by simp [closesEarly]) ?_
    rintro ⟨before, hbefore, hcount⟩
    obtain rfl := List.prefix_nil.1 hbefore
    simp at hcount
    omega
  | cons c text ih =>
    -- the depth behind the first character
    obtain ⟨next, hnext⟩ : ∃ next, next = if c = '(' then depth + 1 else if c = ')' then depth - 1
        else depth :=
      ⟨_, rfl⟩
    have hstep : ∀ before : List Char, depth + (c :: before).count '(' ≤ (c :: before).count ')' ↔
        next + before.count '(' ≤ before.count ')' := by
      intro before
      rw [hnext]
      by_cases hopen : c = '('
      · simp [hopen]
        omega
      · by_cases hclose : c = ')'
        · simp [hclose]
          omega
        · simp [hopen, hclose]
    have hnonneg : 0 ≤ next := by
      rw [hnext]
      split_ifs <;> omega
    have hbefore : (∃ before, before <+: c :: text ∧ depth + before.count '(' ≤ before.count ')') ↔
        ∃ before, before <+: text ∧ next + before.count '(' ≤ before.count ')' := by
      constructor
      · rintro ⟨before, hprefix, hcount⟩
        rcases List.prefix_cons_iff.1 hprefix with rfl | ⟨before, rfl, htext⟩
        · simp at hcount
          omega
        · exact ⟨before, htext, (hstep before).1 hcount⟩
      · rintro ⟨before, hprefix, hcount⟩
        exact ⟨c :: before, List.cons_prefix_cons.2 ⟨rfl, hprefix⟩, (hstep before).2 hcount⟩
    rw [List.cons_append, closesEarly_cons_concat, ← hnext, hbefore, Bool.or_eq_true, beq_iff_eq]
    by_cases hzero : next = 0
    · exact iff_of_true (Or.inl hzero) ⟨[], List.nil_prefix, by simp [hzero]⟩
    · rw [ih (by omega), or_iff_right hzero]

theorem closesEarly_iff_overcloses (text : List Char) (last : Char) :
    closesEarly 1 (text ++ [last]) = true ↔ Overcloses text := by
  rw [closesEarly_concat_iff Int.one_pos]
  refine exists_congr fun before => and_congr_right fun _ => ?_
  omega

instance : DecidablePred Overcloses :=
  fun text => decidable_of_iff _ (closesEarly_iff_overcloses text ')')

/-- **The parentheses around a text belong together unless a beginning of the text closes more than
it opens.** -/
theorem isWrapped_parenthesized (text : List Char) : isWrapped ('(' :: (text ++ [')'])) = true ↔
    ¬Overcloses text := by
  have hclose : closesEarly 0 ('(' :: (text ++ [')'])) = closesEarly 1 (text ++ [')']) :=
    closesEarly_cons_concat 0 '(' text ')'
  have hlast : ('(' :: (text ++ [')'])).getLast? = some ')' := by
    rw [← List.cons_append, List.getLast?_concat]
  rw [isWrapped, hclose, hlast, ← closesEarly_iff_overcloses text ')']
  simp

/-- The texts in parentheses that belong together. -/
theorem isWrapped_iff : isWrapped text = true ↔
    ∃ inner, text = '(' :: (inner ++ [')']) ∧ ¬Overcloses inner := by
  constructor
  · intro h
    have htwo := two_le_length_of_isWrapped h
    obtain ⟨⟨hfirst, hlast⟩, -⟩ : (text.head? = some '(' ∧ text.getLast? = some ')') ∧
        closesEarly 0 text = false := by
      simpa [isWrapped] using h
    obtain ⟨rest, rfl⟩ := List.head?_eq_some_iff.1 hfirst
    have hne : rest ≠ [] := by
      rintro rfl
      simp at htwo
    obtain ⟨inner, last, rfl⟩ := (List.eq_nil_or_concat' rest).resolve_left hne
    rw [← List.cons_append, List.getLast?_concat, Option.some.injEq] at hlast
    subst hlast
    exact ⟨inner, rfl, (isWrapped_parenthesized inner).1 h⟩
  · rintro ⟨inner, rfl, hinner⟩
    exact (isWrapped_parenthesized inner).2 hinner

/-- A parenthesis that a literal opens does no harm. -/
example : isWrapped "(x == \"(\")".toList = true := by decide

/-- A beginning of two texts is one of the first, or all of the first with a beginning of the
second. -/
theorem overcloses_append_iff : Overcloses (front ++ back) ↔ Overcloses front ∨
    ∃ before, before <+: back ∧ (front ++ before).count '(' < (front ++ before).count ')' := by
  constructor
  · rintro ⟨before, hbefore, hcount⟩
    rcases List.prefix_or_prefix_of_prefix hbefore (List.prefix_append front back) with hshort |
      ⟨before, rfl⟩
    · exact Or.inl ⟨before, hshort, hcount⟩
    · exact Or.inr ⟨before, (List.prefix_append_right_inj front).1 hbefore, hcount⟩
  · rintro (⟨before, hbefore, hcount⟩ | ⟨before, hbefore, hcount⟩)
    · exact ⟨before, hbefore.trans (List.prefix_append front back), hcount⟩
    · exact ⟨front ++ before, (List.prefix_append_right_inj front).2 hbefore, hcount⟩

/-- A text without parentheses. -/
def IsFlat (text : List Char) : Prop := '(' ∉ text ∧ ')' ∉ text

theorem isFlat_append : IsFlat (front ++ back) ↔ IsFlat front ∧ IsFlat back := by
  simp only [IsFlat, List.mem_append]
  tauto

theorem isFlat_cons {c : Char} : IsFlat (c :: text) ↔ (c ≠ '(' ∧ c ≠ ')') ∧ IsFlat text := by
  simp only [IsFlat, List.mem_cons, not_or, ne_comm, ne_eq]
  tauto

theorem IsFlat.of_subset (h : IsFlat text) (hsub : front ⊆ text) : IsFlat front :=
  ⟨fun hc => h.1 (hsub hc), fun hc => h.2 (hsub hc)⟩

theorem isFlat_of_isBlank (h : ∀ c ∈ text, Text.isBlank c = true) : IsFlat text :=
  ⟨fun hc => absurd (h _ hc) (by decide), fun hc => absurd (h _ hc) (by decide)⟩

theorem IsFlat.count_eq (h : IsFlat text) : text.count '(' = 0 ∧ text.count ')' = 0 :=
  ⟨List.count_eq_zero.2 h.1, List.count_eq_zero.2 h.2⟩

theorem IsFlat.not_overcloses (h : IsFlat text) : ¬Overcloses text := by
  rintro ⟨before, hbefore, hcount⟩
  have hzero := (h.of_subset hbefore.subset).count_eq
  omega

theorem overcloses_flat_append (h : IsFlat front) : Overcloses (front ++ back) ↔
    Overcloses back := by
  rw [overcloses_append_iff, or_iff_right h.not_overcloses]
  refine exists_congr fun before => and_congr_right fun _ => ?_
  rw [List.count_append, List.count_append, h.count_eq.1, h.count_eq.2, Nat.zero_add, Nat.zero_add]

theorem overcloses_append_flat (h : IsFlat back) : Overcloses (front ++ back) ↔
    Overcloses front := by
  rw [overcloses_append_iff, or_iff_left_of_imp]
  rintro ⟨before, hbefore, hcount⟩
  have hzero := (h.of_subset hbefore.subset).count_eq
  rw [List.count_append, List.count_append, hzero.1, hzero.2] at hcount
  exact ⟨front, List.prefix_rfl, hcount⟩

/-- Parentheses around a text close nothing but each other. -/
theorem not_overcloses_parenthesized (h : ¬Overcloses text) :
    ¬Overcloses ('(' :: (text ++ [')'])) := by
  have hle : ∀ before, before <+: text → before.count ')' ≤ before.count '(' :=
    fun before hbefore =>
    Nat.le_of_not_lt fun hcount => h ⟨before, hbefore, hcount⟩
  rintro ⟨before, hbefore, hcount⟩
  rcases List.prefix_cons_iff.1 hbefore with rfl | ⟨before, rfl, hinner⟩
  · exact absurd hcount (by decide)
  · rcases List.prefix_concat_iff.1 hinner with rfl | hshort
    · have := hle text List.prefix_rfl
      simp at hcount
      omega
    · have := hle before hshort
      simp at hcount
      omega

/-! ### Any number of layers -/

/-- A text in a number of layers of parentheses, with blanks inside and outside of them. -/
inductive Enclosed (inner : List Char) : ℕ → List Char → Prop
  | bare : Enclosed inner 0 inner
  | padded {layers : ℕ} {before text after : List Char}
      (hbefore : ∀ c ∈ before, Text.isBlank c = true)
    (hafter : ∀ c ∈ after, Text.isBlank c = true) (htext : Enclosed inner layers text) :
    Enclosed inner layers (before ++ (text ++ after))
  | parenthesized {layers : ℕ} {text : List Char} (htext : Enclosed inner layers text) :
    Enclosed inner (layers + 1) ('(' :: (text ++ [')']))

namespace Enclosed

/-- Parentheses without blanks between them. -/
theorem replicate (inner : List Char) (layers : ℕ) :
    Enclosed inner layers (List.replicate layers '(' ++ (inner ++ List.replicate layers ')')) := by
  induction layers with
  | zero =>
    rw [List.replicate_zero, List.replicate_zero, List.append_nil]
    exact bare
  | succ layers ih =>
    rw [List.replicate_succ, List.replicate_succ' (a := ')'), List.cons_append,
      ← List.append_assoc inner, ← List.append_assoc]
    exact parenthesized ih

theorem not_overcloses (h : Enclosed inner layers text) (hinner : ¬Overcloses inner) :
    ¬Overcloses text := by
  induction h with
  | bare => exact hinner
  | padded hbefore hafter _ ih =>
    rwa [overcloses_flat_append (isFlat_of_isBlank hbefore),
      overcloses_append_flat (isFlat_of_isBlank hafter)]
  | parenthesized _ ih => exact not_overcloses_parenthesized ih

/-- **All layers are taken off a text of which no beginning closes more parentheses than it
opens.** -/
theorem strip (h : Enclosed inner layers text) (hinner : layers = 0 ∨ ¬Overcloses inner) :
    stripParenthesesChars text = stripParenthesesChars inner := by
  induction h with
  | bare => rfl
  | padded hbefore hafter _ ih => rw [stripParenthesesChars_pad hbefore hafter, ih hinner]
  | parenthesized htext ih =>
    have hnot := hinner.resolve_left (Nat.succ_ne_zero _)
    rw [stripParenthesesChars_parenthesized,
      if_pos ((isWrapped_parenthesized _).2 (htext.not_overcloses hnot)), ih (Or.inr hnot)]

/-- **A layer is left around a text of which a beginning closes more parentheses than it opens.** -/
theorem head?_strip (h : Enclosed inner layers text) (hinner : Overcloses inner)
    (hlayers : 0 < layers) :
    (stripParenthesesChars text).head? = some '(' := by
  -- without a layer, the text itself closes too much, so that the first layer around it is kept
  have hboth : (layers = 0 → Overcloses text) ∧
      (0 < layers → (stripParenthesesChars text).head? = some '(') := by
    clear hlayers
    induction h with
    | bare => exact ⟨fun _ => hinner, fun h => absurd h (Nat.lt_irrefl 0)⟩
    | padded hbefore hafter _ ih =>
      rw [stripParenthesesChars_pad hbefore hafter,
        overcloses_flat_append (isFlat_of_isBlank hbefore),
        overcloses_append_flat (isFlat_of_isBlank hafter)]
      exact ih
    | @parenthesized layers text _ ih =>
      refine ⟨fun h => absurd h (Nat.succ_ne_zero _), fun _ => ?_⟩
      rw [stripParenthesesChars_parenthesized]
      split_ifs with hwrapped
      · exact ih.2 (Nat.pos_of_ne_zero fun hzero =>
          (isWrapped_parenthesized text).1 hwrapped (ih.1 hzero))
      · rfl
  exact hboth.2 hlayers

end Enclosed

end BranchCover.Condition
