import BranchCover.Oracle.Simulation
import BranchCover.Proofs.Number.Integer
import BranchCover.Proofs.Text.Word

/-!
# How an expression is written

An expression is written as an operand, or as two operands with an operation and blanks between
them. An operand is a name, or an integer literal with or without the mark of a long one. A minus
sign directly before digits belongs to the literal where an operand is expected, and is the
operation anywhere else.

* `Operand.Written`, `Expression.Written`: the writing of operands and expressions.
* `Operand.split?_append`: the operand at the head of a text ends where a blank or an operation
  stands.
* `Expression.read?_eq_some_iff`: a text is read as exactly the expression that it writes.
-/

namespace BranchCover

namespace Oracle

/-! ### Operands -/

/-- How an operand is written: a name as it is, and an integer with or without the mark of a long
one. -/
inductive Operand.Written : List Char → Operand → Prop
  | name {first : Char} {rest : List Char} (hfirst : Text.isIdentifierStart first = true)
      (hrest : ∀ c ∈ rest, Text.isWord c = true) : Written (first :: rest)
      (.name (String.ofList (first :: rest)))
  | integer {literal : Literal.IntegerLiteral} {mark : List Char} (hliteral : literal.WellFormed)
      (hmark : mark = [] ∨ mark = ['L']) : Written (literal.text ++ mark) (.integer literal)

/-- The character of an operation. -/
def Operation.symbol : Operation → Char
  | plus => '+'
  | minus => '-'
  | times => '*'
  | divide => '/'
  | remainder => '%'

theorem Operation.ofChar?_eq_some_iff {c : Char} {op : Operation} :
    Operation.ofChar? c = some op ↔ op.symbol = c := by
  constructor
  · intro h
    unfold Operation.ofChar? at h
    split_ifs at h with hc hc hc hc hc
    all_goals
      obtain rfl := Option.some.inj h
      exact hc.symm
  · rintro rfl
    cases op <;> rfl

/-- What may follow an operand: a blank, or the character of an operation. -/
def Delimits (c : Char) : Prop := Text.isBlank c = true ∨ ∃ op : Operation, op.symbol = c

theorem Delimits.isWord {c : Char} (h : Delimits c) : Text.isWord c = false := by
  rcases h with hblank | ⟨op, rfl⟩
  · exact Text.isWord_of_isBlank hblank
  · cases op <;> decide

theorem Delimits.isDecimal {c : Char} (h : Delimits c) : Text.isDecimal c = false := by
  rcases h with hblank | ⟨op, rfl⟩
  · refine Bool.eq_false_iff.2 fun hdecimal => ?_
    rw [Text.isBlank_of_isDecimal hdecimal] at hblank
    cases hblank
  · cases op <;> decide

/-- An integer literal starts no identifier. -/
theorem identifier?_literal {literal : Literal.IntegerLiteral} (h : literal.WellFormed)
    (rest : List Char) :
    Text.identifier? (literal.text ++ rest) = none := by
  obtain ⟨c, tail, htext, hc⟩ := h.head?
  have hstart : Text.isIdentifierStart c = false := by
    rcases hc with rfl | hdecimal
    · decide
    · refine Bool.eq_false_iff.2 fun hstart => ?_
      rw [(Text.plain_of_isIdentifierStart hstart).2.1] at hdecimal
      cases hdecimal
  rw [htext, List.cons_append, Text.identifier?, if_neg (by simp [hstart])]

/-- **The operand at the head of a text ends where a blank or an operation stands.** -/
theorem Operand.split?_append {written rest : List Char} {a : Operand}
    (h : Operand.Written written a)
    (hrest : ∀ c, rest.head? = some c → Delimits c) :
      Operand.split? (written ++ rest) = some (a, rest) := by
  cases h with
  | @name first tail hfirst htail =>
    have hend : ∀ c, rest.head? = some c → Text.isWord c = false := fun c hc => (hrest c hc).isWord
    rw [Operand.split?, Text.identifier?_append (Text.isIdentifier_cons.2 ⟨hfirst, htail⟩) hend]
  | @integer literal mark hliteral hmark =>
    have hafter : ∀ c, (mark ++ rest).head? = some c → Text.isDecimal c = false := by
      intro c hc
      rcases hmark with rfl | rfl
      · exact (hrest c hc).isDecimal
      · obtain rfl := Option.some.inj hc
        decide
    have hsplit : Literal.IntegerLiteral.split? (literal.text ++ (mark ++ rest)) =
        some (literal, mark ++ rest) :=
      Literal.IntegerLiteral.split?_eq_some_iff.2 ⟨hliteral, rfl, hafter⟩
    have hdrop : dropLongMark (mark ++ rest) = rest := by
      rcases hmark with rfl | rfl
      · cases rest with
        | nil => rfl
        | cons c rest =>
          have hc : c ≠ 'L' := by
            rintro rfl
            exact absurd (hrest 'L' rfl).isWord (by decide)
          rw [List.nil_append, dropLongMark]
          intro tail heq
          exact hc (List.cons.inj heq).1
      · rfl
    rw [List.append_assoc, Operand.split?, identifier?_literal hliteral, hsplit]
    simp only [Option.map_some, hdrop]

theorem Operand.Written.split? {written : List Char} {a : Operand} (h : Operand.Written written a) :
    Operand.split? written = some (a, []) := by
  have hend : ∀ c, ([] : List Char).head? = some c → Delimits c := by simp
  have hsplit := Operand.split?_append h hend
  rwa [List.append_nil] at hsplit

/-- What is split off a text writes the operand. -/
theorem Operand.exists_written_of_split? {text rest : List Char} {a : Operand}
    (h : Operand.split? text = some (a, rest)) : ∃ written, Operand.Written written a ∧
      text = written ++ rest := by
  unfold Operand.split? at h
  split at h
  · rename_i word rest' hword
    obtain ⟨rfl, rfl⟩ := Prod.mk.inj (Option.some.inj h)
    obtain ⟨hidentifier, rfl, -⟩ := Text.identifier?_eq_some_iff.1 hword
    obtain ⟨c, word, rfl⟩ := List.exists_cons_of_ne_nil (Text.ne_nil_of_isIdentifier hidentifier)
    obtain ⟨hfirst, htail⟩ := Text.isIdentifier_cons.1 hidentifier
    exact ⟨_, .name hfirst htail, rfl⟩
  · obtain ⟨⟨literal, after⟩, hsplit, hpair⟩ := Option.map_eq_some_iff.1 h
    obtain ⟨rfl, rfl⟩ := Prod.mk.inj hpair
    obtain ⟨hliteral, rfl, -⟩ := Literal.IntegerLiteral.split?_eq_some_iff.1 hsplit
    obtain ⟨mark, hmark, hafter⟩ : ∃ mark, (mark = [] ∨ mark = ['L']) ∧
        after = mark ++ dropLongMark after := by
      unfold dropLongMark
      split
      · exact ⟨['L'], Or.inr rfl, rfl⟩
      · exact ⟨[], Or.inl rfl, rfl⟩
    refine ⟨_, .integer hliteral hmark, ?_⟩
    rw [List.append_assoc, ← hafter]

/-! ### Expressions -/

/-- How an expression is written: as its operand, or as both operands with the operation and blanks
between them. -/
inductive Expression.Written : List Char → Expression → Prop
  | operand {text : List Char} {a : Operand} (h : Operand.Written text a) :
      Written text (.operand a)
  | binary {left right before after : List Char} {op : Operation} {a b : Operand}
      (hleft : Operand.Written left a)
      (hbefore : ∀ c ∈ before, Text.isBlank c = true) (hafter : ∀ c ∈ after, Text.isBlank c = true)
      (hright : Operand.Written right b) :
      Written (left ++ (before ++ op.symbol :: (after ++ right))) (.binary op a b)

theorem Operation.isBlank_symbol (op : Operation) : Text.isBlank op.symbol = false := by
  cases op <;> decide

/-- What an operand starts with: a sign, a digit or the start of a name. -/
def StartsOperand (c : Char) : Prop :=
  c = '-' ∨ Text.isDecimal c = true ∨ Text.isIdentifierStart c = true

theorem StartsOperand.isBlank {c : Char} (h : StartsOperand c) : Text.isBlank c = false := by
  rcases h with rfl | hdecimal | hstart
  · decide
  · exact Text.isBlank_of_isDecimal hdecimal
  · exact (Text.plain_of_isIdentifierStart hstart).1

theorem Operand.Written.head? {text : List Char} {a : Operand} (h : Operand.Written text a) :
    ∃ c rest, text = c :: rest ∧ StartsOperand c := by
  cases h with
  | @name first rest hfirst _ => exact ⟨first, rest, rfl, Or.inr (Or.inr hfirst)⟩
  | @integer literal mark hliteral _ =>
    obtain ⟨c, rest, htext, hc⟩ := hliteral.head?
    exact ⟨c, rest ++ mark, by rw [htext, List.cons_append], hc.imp_right Or.inl⟩

/-- An operand ends in a word character. -/
theorem Operand.Written.getLast? {text : List Char} {a : Operand} (h : Operand.Written text a)
    {c : Char}
    (hc : text.getLast? = some c) : Text.isWord c = true ∨ Text.isDecimal c = true := by
  cases h with
  | @name first rest hfirst hrest =>
    rcases List.mem_cons.1 (List.mem_of_getLast? hc) with rfl | hmem
    · exact Or.inl (Text.plain_of_isIdentifierStart hfirst).2.2
    · exact Or.inl (hrest c hmem)
  | @integer literal mark hliteral hmark =>
    rcases hmark with rfl | rfl
    · rw [List.append_nil] at hc
      exact Or.inr (hliteral.getLast? hc)
    · rw [List.getLast?_concat] at hc
      obtain rfl := Option.some.inj hc
      exact Or.inl (by decide)

theorem Operand.Written.trimStart_append {text before : List Char} {a : Operand}
    (h : Operand.Written text a)
    (hbefore : ∀ c ∈ before, Text.isBlank c = true) : Text.trimStart (before ++ text) = text := by
  obtain ⟨c, rest, rfl, hc⟩ := h.head?
  exact Text.trimStart_append_cons hbefore hc.isBlank

/-- **A text is read as exactly the expression that it writes.** -/
theorem Expression.read?_eq_some_iff {text : List Char} {expression : Expression} :
    Expression.read? text = some expression ↔ Expression.Written text expression := by
  constructor
  · intro h
    unfold Expression.read? at h
    split at h
    · cases h
    · rename_i a hsplit
      obtain rfl := Option.some.inj h
      obtain ⟨written, hwritten, rfl⟩ := Operand.exists_written_of_split? hsplit
      rw [List.append_nil]
      exact .operand hwritten
    · rename_i a rest _ hsplit
      obtain ⟨left, hleft, rfl⟩ := Operand.exists_written_of_split? hsplit
      split at h
      · cases h
      · rename_i c tail htail
        split at h
        · rename_i op b hop hright
          obtain rfl := Option.some.inj h
          obtain rfl := Operation.ofChar?_eq_some_iff.1 hop
          obtain ⟨right, hwritten, hrest⟩ := Operand.exists_written_of_split? hright
          have hbefore := Text.append_trimStart rest
          have hafter := Text.append_trimStart tail
          rw [List.append_nil] at hrest
          rw [hrest] at hafter
          rw [htail, ← hafter] at hbefore
          rw [← hbefore]
          exact .binary hleft (fun d => List.mem_takeWhile_imp) (fun d =>
            List.mem_takeWhile_imp) hwritten
        · cases h
  · intro h
    cases h with
    | operand hwritten =>
      rw [Expression.read?, hwritten.split?]
    | @binary left right before after op a b hleft hbefore hafter hright =>
      have hdelimits : ∀ c, (before ++ op.symbol :: (after ++ right)).head? = some c →
          Delimits c := by
        intro c hc
        cases before with
        | nil =>
          obtain rfl := Option.some.inj hc
          exact Or.inr ⟨op, rfl⟩
        | cons d before =>
          obtain rfl := Option.some.inj hc
          exact Or.inl (hbefore d List.mem_cons_self)
      have hfirst := Operand.split?_append hleft hdelimits
      have hstart : Text.trimStart (before ++ op.symbol :: (after ++ right)) =
          op.symbol :: (after ++ right) :=
        Text.trimStart_append_cons hbefore op.isBlank_symbol
      unfold Expression.read?
      rw [hfirst]
      split
      · rename_i hnone
        cases hnone
      · rename_i hsome
        -- the operation stands behind the first operand
        obtain ⟨-, hnil⟩ := Prod.mk.inj (Option.some.inj hsome)
        simp at hnil
      · rename_i a' rest _ hsome
        obtain ⟨rfl, rfl⟩ := Prod.mk.inj (Option.some.inj hsome)
        simp only [hstart, Operation.ofChar?_eq_some_iff.2 (rfl : op.symbol = op.symbol),
          hright.trimStart_append hafter, hright.split?]

end Oracle

end BranchCover
