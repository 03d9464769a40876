import BranchCover.Proofs.Oracle.Simulation
import Mathlib.Data.Rat.Floor

/-!
# Results of simulated bodies

Bodies are computed with exact integers. A quotient is the rational one without its fraction, and a
remainder has the sign of the dividend; only a division by zero has no result. A result is written
if it fits into the bits that are checked, which are 64 for a long result and 32 for all others, the
narrow ones among them.

* `Operation.apply?_eq_some_iff`: the results of operations.
* `Expression.value_eq_of_readable`, `Expression.result?_eq_some_iff`: what a readable expression
  computes.
* `simulate_exact`: the result of a body, for the types whose own bits are checked.
* `simulate_narrow`: the result of a body, for the types with fewer bits.
-/

namespace BranchCover.Oracle

variable {bindings : Bindings} {expression : Expression} {body type text mark : String} {bits : ℕ}
  {a b r : Int}

/-! ### Quotients and remainders -/

/-- A rational number without its fraction. -/
def towardZero (x : ℚ) : Int := if 0 ≤ x then ⌊x⌋ else ⌈x⌉

/-- The remainder of a division whose quotient goes toward zero: smaller than the divisor, and with
the sign of the dividend unless it is zero. -/
structure IsRemainder (a b r : Int) : Prop where
  divides : ∃ q, a = b * q + r
  small : |r| < |b|
  sign : r = 0 ∨ r.sign = a.sign

theorem towardZero_neg (x : ℚ) : towardZero (-x) = -towardZero x := by
  unfold towardZero
  rcases lt_trichotomy x 0 with hneg | rfl | hpos
  · rw [if_pos (by linarith), if_neg (by linarith), Int.floor_neg]
  · simp
  · rw [if_neg (by linarith), if_pos hpos.le, Int.ceil_neg]

theorem towardZero_div (a b : Int) : towardZero ((a : ℚ) / b) = a.tdiv b := by
  have hnat : ∀ m n : ℕ, towardZero ((m : ℚ) / n) = (m : Int).tdiv n := by
    intro m n
    rw [towardZero, if_pos (by positivity), Rat.floor_natCast_div_natCast]
    rfl
  -- the signs come out of both sides
  obtain ⟨m, rfl | rfl⟩ := a.eq_nat_or_neg <;> obtain ⟨n, rfl | rfl⟩ := b.eq_nat_or_neg
  · rw [Int.cast_natCast, Int.cast_natCast, hnat]
  · push_cast
    rw [div_neg, towardZero_neg, hnat, Int.tdiv_neg]
  · push_cast
    rw [neg_div, towardZero_neg, hnat, Int.neg_tdiv]
  · push_cast
    rw [neg_div_neg_eq, hnat, Int.neg_tdiv, Int.tdiv_neg, neg_neg]

theorem isRemainder_iff : IsRemainder a b r ↔ b ≠ 0 ∧ a.tmod b = r := by
  constructor
  · rintro ⟨⟨q, hq⟩, hsmall, hsign⟩
    have hb : b ≠ 0 := abs_pos.1 ((abs_nonneg r).trans_lt hsmall)
    obtain ⟨hlow, hhigh⟩ := abs_lt.1 hsmall
    rw [Int.abs_eq_natAbs] at hlow hhigh
    refine ⟨hb, ?_⟩
    rcases le_total 0 a with ha | ha
    · have hr : 0 ≤ r := by
        rcases hsign with rfl | hsign
        · exact le_rfl
        · exact Int.sign_nonneg_iff.1 (hsign ▸ Int.sign_nonneg_iff.2 ha)
      exact ((Int.tdiv_tmod_unique ha hb).2 ⟨by rw [hq, add_comm], hr, hhigh⟩).2
    · have hr : r ≤ 0 := by
        rcases hsign with rfl | hsign
        · exact le_rfl
        · exact Int.sign_nonpos_iff.1 (hsign ▸ Int.sign_nonpos_iff.2 ha)
      exact ((Int.tdiv_tmod_unique' ha hb).2 ⟨by rw [hq, add_comm], hlow, hr⟩).2
  · rintro ⟨hb, rfl⟩
    refine ⟨⟨a.tdiv b, (Int.mul_tdiv_add_tmod a b).symm⟩, ?_, ?_⟩
    · rw [Int.abs_eq_natAbs, Int.abs_eq_natAbs, Int.natAbs_tmod, Int.ofNat_lt]
      exact Nat.mod_lt _ (Int.natAbs_pos.2 hb)
    · rw [Int.sign_tmod]
      by_cases hdvd : b ∣ a
      · exact Or.inl (Int.tmod_eq_zero_of_dvd hdvd)
      · exact Or.inr (if_neg hdvd)

/-! ### Operations -/

/-- What an operation gives for two integers. -/
inductive Operation.Gives : Operation → Int → Int → Int → Prop
  | plus (a b : Int) : Gives .plus a b (a + b)
  | minus (a b : Int) : Gives .minus a b (a - b)
  | times (a b : Int) : Gives .times a b (a * b)
  | divide (a : Int) {b : Int} (hb : b ≠ 0) : Gives .divide a b (towardZero ((a : ℚ) / b))
  | remainder {a b r : Int} (h : IsRemainder a b r) : Gives .remainder a b r

/-- The operations that divide. -/
def Operation.Divides (op : Operation) : Prop := op = .divide ∨ op = .remainder

/-- **An operation has the result that its definition gives it.** -/
theorem Operation.apply?_eq_some_iff {op : Operation} : op.apply? a b = some r ↔
    op.Gives a b r := by
  constructor
  · intro h
    cases op with
    | plus => exact Option.some.inj h ▸ .plus a b
    | minus => exact Option.some.inj h ▸ .minus a b
    | times => exact Option.some.inj h ▸ .times a b
    | divide =>
      change (if b = 0 then none else some (a.tdiv b)) = some r at h
      split_ifs at h with hb
      rw [← Option.some.inj h, ← towardZero_div]
      exact .divide a hb
    | remainder =>
      change (if b = 0 then none else some (a.tmod b)) = some r at h
      split_ifs at h with hb
      exact .remainder (isRemainder_iff.2 ⟨hb, Option.some.inj h⟩)
  · intro h
    cases h with
    | plus => rfl
    | minus => rfl
    | times => rfl
    | divide _ hb =>
      show (if b = 0 then none else some (a.tdiv b)) = _
      rw [if_neg hb, towardZero_div]
    | remainder h =>
      obtain ⟨hb, hr⟩ := isRemainder_iff.1 h
      show (if b = 0 then none else some (a.tmod b)) = _
      rw [if_neg hb, hr]

/-- Only a division by zero has no result. -/
theorem Operation.apply?_eq_none_iff {op : Operation} : op.apply? a b = none ↔
    op.Divides ∧ b = 0 := by
  cases op <;> simp [Operation.Divides, Operation.apply?]

/-! ### Operands and expressions -/

/-- The integer literal that an operand stands for under bindings: itself, or the one that is bound
to the name, with blanks around. -/
inductive Operand.Denotes (bindings : Bindings) : Operand → Literal.IntegerLiteral → Prop
  | integer (literal : Literal.IntegerLiteral) : Denotes bindings (.integer literal) literal
  | name {text value : String} {literal : Literal.IntegerLiteral}
      (hvalue : bindings.get? text = some value)
      (hwritten : Operand.Written (Text.trim value.toList) (.integer literal)) :
        Denotes bindings (.name text) literal

theorem Operand.literal?_eq_some_iff {operand : Operand} {literal : Literal.IntegerLiteral} :
    operand.literal? bindings = some literal ↔ operand.Denotes bindings literal := by
  constructor
  · intro h
    cases operand with
    | integer found => exact Option.some.inj h ▸ .integer found
    | name text =>
      obtain ⟨value, hvalue, hliteral⟩ := Option.bind_eq_some_iff.1 h
      exact .name hvalue (integerOf?_eq_some_iff.1 hliteral)
  · intro h
    cases h with
    | integer => rfl
    | name hvalue hwritten =>
      exact Option.bind_eq_some_iff.2 ⟨_, hvalue, integerOf?_eq_some_iff.2 hwritten⟩

/-- The integer literals that an expression computes with have no more digits than are read. -/
def Expression.Readable (bindings : Bindings) (expression : Expression) : Prop :=
  ∀ operand ∈ expression.operands, ∀ literal, operand.Denotes bindings literal → literal.Short

/-- What an expression computes from the integers that its operands stand for. -/
inductive Expression.Computes (bindings : Bindings) : Expression → Int → Prop
  | operand {operand : Operand} {literal : Literal.IntegerLiteral}
      (h : operand.Denotes bindings literal) :
      Computes bindings (.operand operand) literal.integer
  | binary {op : Operation} {left right : Operand} {a b : Literal.IntegerLiteral} {r : Int}
      (hleft : left.Denotes bindings a) (hright : right.Denotes bindings b)
      (h : op.Gives a.integer b.integer r) :
      Computes bindings (.binary op left right) r

/-- An expression divides by an operand that stands for zero. -/
def Expression.DividesByZero (bindings : Bindings) (expression : Expression) : Prop :=
  ∃ op left right literal, expression = .binary op left right ∧ op.Divides ∧
    right.Denotes bindings literal ∧
    literal.integer = 0

/-- The integer that an operand stands for, however many digits it has. -/
def Operand.integer? (bindings : Bindings) (operand : Operand) : Option Int :=
  (operand.literal? bindings).map Literal.IntegerLiteral.integer

theorem Operand.integer?_eq_some_iff {operand : Operand} {n : Int} :
    operand.integer? bindings = some n ↔
    ∃ literal, operand.Denotes bindings literal ∧ literal.integer = n := by
  simp only [Operand.integer?, Option.map_eq_some_iff, Operand.literal?_eq_some_iff]

/-- The result of an expression, however many digits its operands have. -/
def Expression.result? (bindings : Bindings) : Expression → Option Int
  | operand a => a.integer? bindings
  | binary op a b => (a.integer? bindings).bind fun x => (b.integer? bindings).bind fun y =>
      op.apply? x y

theorem Operand.value_eq_of_short {operand : Operand}
    (h : ∀ literal, operand.Denotes bindings literal → literal.Short) :
    operand.value bindings = .ok (operand.integer? bindings) := by
  rw [Operand.value_eq, Operand.integer?]
  cases hliteral : operand.literal? bindings with
  | none => rfl
  | some literal =>
    have hshort : literal.Short := h literal (Operand.literal?_eq_some_iff.1 hliteral)
    rw [Option.elim_some, Literal.IntegerLiteral.value_eq_ok_iff.2 ⟨hshort, rfl⟩]
    rfl

theorem Expression.value_eq_of_readable (h : expression.Readable bindings) :
    expression.value bindings = .ok (expression.result? bindings) := by
  cases expression with
  | operand operand => exact Operand.value_eq_of_short (h operand (by simp [Expression.operands]))
  | binary op left right =>
    rw [Expression.value, Operand.value_eq_of_short (h left (by simp [Expression.operands])),
      Operand.value_eq_of_short (h right (by simp [Expression.operands])), Expression.result?]
    cases left.integer? bindings <;> cases right.integer? bindings <;> rfl

theorem Expression.returns_value_iff_readable :
    Returns (expression.value bindings) ↔ expression.Readable bindings := by
  rw [Expression.returns_value_iff, Expression.Readable]
  simp only [Option.mem_def, Operand.literal?_eq_some_iff]

theorem Expression.result?_eq_some_iff : expression.result? bindings = some r ↔
    expression.Computes bindings r := by
  constructor
  · intro h
    cases expression with
    | operand operand =>
      obtain ⟨literal, hliteral, rfl⟩ := Operand.integer?_eq_some_iff.1 h
      exact .operand hliteral
    | binary op left right =>
      obtain ⟨x, hx, h⟩ := Option.bind_eq_some_iff.1 h
      obtain ⟨y, hy, h⟩ := Option.bind_eq_some_iff.1 h
      obtain ⟨a, ha, rfl⟩ := Operand.integer?_eq_some_iff.1 hx
      obtain ⟨b, hb, rfl⟩ := Operand.integer?_eq_some_iff.1 hy
      exact .binary ha hb (Operation.apply?_eq_some_iff.1 h)
  · intro h
    cases h with
    | operand h => exact Operand.integer?_eq_some_iff.2 ⟨_, h, rfl⟩
    | binary hleft hright h =>
      rw [Expression.result?, Operand.integer?_eq_some_iff.2 ⟨_, hleft, rfl⟩,
        Operand.integer?_eq_some_iff.2 ⟨_, hright, rfl⟩]
      exact Operation.apply?_eq_some_iff.2 h

/-- An expression whose operands stand for integers has no result if it divides by zero. -/
theorem Expression.result?_eq_none_iff
    (h : ∀ operand ∈ expression.operands, ∃ literal, operand.Denotes bindings literal) :
    expression.result? bindings = none ↔ expression.DividesByZero bindings := by
  cases expression with
  | operand operand =>
    obtain ⟨literal, hliteral⟩ := h operand (by simp [Expression.operands])
    rw [Expression.result?, Operand.integer?_eq_some_iff.2 ⟨literal, hliteral, rfl⟩]
    simp [Expression.DividesByZero]
  | binary op left right =>
    obtain ⟨a, ha⟩ := h left (by simp [Expression.operands])
    obtain ⟨b, hb⟩ := h right (by simp [Expression.operands])
    have hright := Operand.integer?_eq_some_iff.2 ⟨b, hb, rfl⟩
    rw [Expression.result?, Operand.integer?_eq_some_iff.2 ⟨a, ha, rfl⟩, hright, Option.bind_some,
      Option.bind_some, Operation.apply?_eq_none_iff]
    constructor
    · rintro ⟨hop, hzero⟩
      exact ⟨op, left, right, b, rfl, hop, hb, hzero⟩
    · rintro ⟨op', left', right', literal, heq, hop, hliteral, hzero⟩
      obtain ⟨rfl, rfl, rfl⟩ := Expression.binary.inj heq
      rw [Operand.integer?_eq_some_iff.2 ⟨literal, hliteral, hzero⟩] at hright
      exact ⟨hop, (Option.some.inj hright).symm⟩

/-! ### Results -/

/-- An integer fits into bits. -/
def Fits (bits : ℕ) (n : Int) : Prop := -2 ^ (bits - 1) ≤ n ∧ n < 2 ^ (bits - 1)

instance (bits : ℕ) (n : Int) : Decidable (Fits bits n) := inferInstanceAs (Decidable (_ ∧ _))

/-- The types whose own bits are checked, and the marks of their literals. -/
inductive WideType : String → ℕ → String → Prop
  | int : WideType "Int" 32 ""
  | long : WideType "Long" 64 "L"

/-- The types that have fewer bits than are checked. -/
inductive NarrowType : String → ℕ → Prop
  | short : NarrowType "Short" 16
  | byte : NarrowType "Byte" 8

theorem resultText?_eq (h : WideType type bits mark) (n : Int) :
    resultText? n type = if Fits bits n then some (Number.intText n ++ mark) else none := by
  cases h with
  | int =>
    have hfits : (-2147483648 ≤ n ∧ n ≤ 2147483647) ↔ Fits 32 n := by
      simp only [Fits]
      omega
    simp only [resultText?, hfits, String.append_empty]
    rfl
  | long =>
    have hfits : (-9223372036854775808 ≤ n ∧ n ≤ 9223372036854775807) ↔ Fits 64 n := by
      simp only [Fits]
      omega
    simp only [resultText?, hfits, if_true]

theorem WideType.integral (h : WideType type bits mark) :
    type ∈ ["Int", "Long", "Short", "Byte"] := by
  cases h <;> decide

/-- The types with fewer bits are treated as those with 32. -/
theorem simulate_eq_int (h : NarrowType (TypeText.base type) bits) :
    simulate body bindings type = simulate body bindings "Int" := by
  have hint : TypeText.base "Int" = "Int" := by decide
  have htype : TypeText.base type ∈ ["Int", "Long", "Short", "Byte"] ∧
      TypeText.base type ≠ "Long" := by
    generalize TypeText.base type = base at h
    cases h <;> decide
  have hnot : "Int" ≠ "Long" := by decide
  have hresult : ∀ n, resultText? n (TypeText.base type) = resultText? n "Int" := by
    intro n
    rw [resultText?, resultText?, if_neg htype.2, if_neg hnot]
  simp only [simulate, hint, htype.1, if_true, hresult]
  rfl

theorem simulate_of_writes (htype : TypeText.base type ∈ ["Int", "Long", "Short", "Byte"])
    (hbody : BodyWrites body.toList expression) :
    simulate body bindings type =
      (expression.value bindings).map fun n => n.bind (resultText? · (TypeText.base type)) := by
  simp only [simulate, htype, if_true, read_body_iff.2 hbody]

/-- The text that is returned for a readable expression. -/
theorem simulate_of_readable (htype : WideType (TypeText.base type) bits mark)
    (hbody : BodyWrites body.toList expression) (hreadable : expression.Readable bindings) :
    simulate body bindings type = .ok ((expression.result? bindings).bind fun n =>
      if Fits bits n then some (Number.intText n ++ mark) else none) := by
  rw [simulate_of_writes htype.integral hbody, Expression.value_eq_of_readable hreadable]
  simp only [resultText?_eq htype]
  rfl

/-- **The result of a body is exact for the types whose own bits are checked.** There is one exactly
if the integers can be read; it is no text exactly if the body divides by zero or its integer does
not fit. -/
theorem simulate_exact (htype : WideType (TypeText.base type) bits mark)
    (hbody : BodyWrites body.toList expression)
    (hresolved : ∀ operand ∈ expression.operands, ∃ literal, operand.Denotes bindings literal) :
    (Returns (simulate body bindings type) ↔ expression.Readable bindings) ∧
      ∀ result, simulate body bindings type = .ok result →
        (∀ text, result = some text ↔
          ∃ r, expression.Computes bindings r ∧ Fits bits r ∧ text = Number.intText r ++ mark) ∧
        (result = none ↔
          expression.DividesByZero bindings ∨ ∃ r, expression.Computes bindings r ∧
            ¬Fits bits r) := by
  have hreturns : Returns (simulate body bindings type) ↔ expression.Readable bindings := by
    rw [simulate_of_writes htype.integral hbody, returns_map_iff,
      Expression.returns_value_iff_readable]
  refine ⟨hreturns, fun result hresult => ?_⟩
  have hreadable : expression.Readable bindings := hreturns.1 ⟨result, hresult⟩
  rw [simulate_of_readable htype hbody hreadable, Except.ok.injEq] at hresult
  subst hresult
  have hzero := Expression.result?_eq_none_iff hresolved
  simp only [← Expression.result?_eq_some_iff, ← hzero]
  cases expression.result? bindings with
  | none => simp
  | some r =>
    rw [Option.bind_some]
    split_ifs with hfits
    · simp [hfits, eq_comm]
    · simp [hfits]

/-- A remainder has the sign of the dividend, and a sign directly before digits is no operation. -/
theorem simulate_exact_remainder :
    ∃ r, (Expression.binary .remainder (.name "a") (.integer ⟨true, ['2']⟩)).Computes
      [("a", " -7L ")] r ∧
      Fits 64 r ∧ "-1L" = Number.intText r ++ "L" := by
  have hbody : BodyWrites "{ return a % -2; }".toList
      (.binary .remainder (.name "a") (.integer ⟨true, ['2']⟩)) := read_body_iff.1 (by decide)
  have hresolved : ∀ operand ∈ [Operand.name "a", .integer ⟨true, ['2']⟩],
      ∃ literal, operand.Denotes [("a", " -7L ")] literal := by
    refine List.forall_mem_cons.2 ⟨⟨⟨true, ['7']⟩, Operand.literal?_eq_some_iff.1 (by decide)⟩,
      List.forall_mem_singleton.2 ⟨_, .integer _⟩⟩
  have hresult : simulate "{ return a % -2; }" [("a", " -7L ")] "Long?" = .ok (some "-1L") := by
    decide
  have htype : WideType (TypeText.base "Long?") 64 "L" := .long
  exact (((simulate_exact htype hbody hresolved).2 _ hresult).1 "-1L").1 rfl

/-- A body of 4301 ones has no result, although the integer only does not fit. -/
theorem simulate_exact_longInteger :
    BodyWrites (List.replicate 4301 '1') (.operand (.integer ⟨false, List.replicate 4301 '1'⟩)) ∧
      ¬Returns (simulate (String.ofList (List.replicate 4301 '1')) [] "Int") := by
  have hwrites : ∀ n, BodyWrites (List.replicate (n + 1) '1')
      (.operand (.integer ⟨false, List.replicate (n + 1) '1'⟩)) :=
    fun n => bodyWrites_literal (Literal.IntegerLiteral.wellFormed_ones n)
  have hlimit : ∀ n, Returns (simulate (String.ofList (List.replicate (n + 1) '1')) [] "Int") →
      n + 1 ≤ Text.maxIntegerDigits := by
    intro n hreturns
    have hbody := hwrites n
    rw [← String.toList_ofList (l := List.replicate (n + 1) '1')] at hbody
    rw [simulate_of_writes (by decide) hbody, returns_map_iff,
      Expression.returns_value_iff_readable] at hreturns
    have hshort := hreturns _ (List.mem_singleton.2 rfl) _ (.integer _)
    simpa [Literal.IntegerLiteral.Short] using hshort
  exact ⟨hwrites 4300, fun hreturns => absurd (hlimit 4300 hreturns) (by decide)⟩

/-- A text is returned for exactly the expressions that can be read and have a result that fits. -/
theorem simulate_eq_ok_some_iff (htype : WideType (TypeText.base type) bits mark) :
    simulate body bindings type = .ok (some text) ↔
      ∃ expression r, BodyWrites body.toList expression ∧ expression.Readable bindings ∧
        expression.Computes bindings r ∧ Fits bits r ∧ text = Number.intText r ++ mark := by
  constructor
  · intro h
    obtain ⟨expression, hread⟩ : ∃ expression,
        (statement? body).bind Expression.read? = some expression := by
      unfold simulate at h
      rw [if_pos htype.integral] at h
      split at h
      · rename_i expression hread
        exact ⟨expression, hread⟩
      · cases h
    have hbody : BodyWrites body.toList expression := read_body_iff.1 hread
    have hreadable : expression.Readable bindings := by
      have hreturns : Returns (simulate body bindings type) := ⟨_, h⟩
      rwa [simulate_of_writes htype.integral hbody, returns_map_iff,
        Expression.returns_value_iff_readable] at hreturns
    rw [simulate_of_readable htype hbody hreadable, Except.ok.injEq] at h
    obtain ⟨r, hresult, htext⟩ := Option.bind_eq_some_iff.1 h
    split_ifs at htext with hfits
    exact ⟨expression, r, hbody, hreadable, Expression.result?_eq_some_iff.1 hresult, hfits,
      (Option.some.inj htext).symm⟩
  · rintro ⟨expression, r, hbody, hreadable, hcomputes, hfits, rfl⟩
    rw [simulate_of_readable htype hbody hreadable, Expression.result?_eq_some_iff.2 hcomputes,
      Option.bind_some, if_pos hfits]

/-- **The result of a body has 32 bits for the types with fewer.** The integers of the texts fit
into the bits of the type exactly if all results of 32 bits do. -/
theorem simulate_narrow (htype : NarrowType (TypeText.base type) bits) :
    (∀ text, simulate body bindings type = .ok (some text) ↔
      ∃ expression r, BodyWrites body.toList expression ∧ expression.Readable bindings ∧
        expression.Computes bindings r ∧ Fits 32 r ∧ text = Number.intText r) ∧
    ((∀ text n, simulate body bindings type = .ok (some text) → Number.Denotes text n →
      Fits bits n) ↔
      ∀ expression r, BodyWrites body.toList expression → expression.Readable bindings →
        expression.Computes bindings r → Fits 32 r → Fits bits r) := by
  have htexts : ∀ text, simulate body bindings type = .ok (some text) ↔
      ∃ expression r, BodyWrites body.toList expression ∧ expression.Readable bindings ∧
        expression.Computes bindings r ∧ Fits 32 r ∧ text = Number.intText r := by
    intro text
    have hint : WideType (TypeText.base "Int") 32 "" := .int
    rw [simulate_eq_int htype, simulate_eq_ok_some_iff hint]
    simp only [String.append_empty]
  refine ⟨htexts, ?_⟩
  constructor
  · intro h expression r hbody hreadable hcomputes hfits
    exact h (Number.intText r) r ((htexts _).2 ⟨expression, r, hbody, hreadable, hcomputes, hfits,
      rfl⟩) (Number.denotes_plain r)
  · intro h text n htext hn
    obtain ⟨expression, r, hbody, hreadable, hcomputes, hfits, rfl⟩ := (htexts text).1 htext
    rw [hn.unique (Number.denotes_plain r)]
    exact h expression r hbody hreadable hcomputes hfits

/-- A product that fits into the type. -/
theorem simulate_narrow_product :
    ∃ expression r, BodyWrites "= a * 3".toList expression ∧ expression.Readable [("a", "-42")] ∧
      expression.Computes [("a", "-42")] r ∧ Fits 32 r ∧ "-126" = Number.intText r := by
  have htype : NarrowType (TypeText.base "Byte") 8 := .byte
  exact ((simulate_narrow htype).1 "-126").1 (by decide)

/-- A result that does not fit into the type. -/
theorem simulate_narrow_overflow :
    simulate "= 40000" [] "Short" = .ok (some "40000") ∧ Number.Denotes "40000" 40000 ∧
    ¬Fits 16 40000 := by
  have htext : Number.intText 40000 = "40000" := by decide
  exact ⟨by decide, htext ▸ Number.denotes_plain 40000, by decide⟩

end BranchCover.Oracle
