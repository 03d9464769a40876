import BranchCover.Oracle.Assertion
import BranchCover.Proofs.Oracle.Body
import BranchCover.Proofs.Value.Readable

/-!
# When a body can be simulated

The exact oracle reads the integers that a body computes with. It fails exactly on an integer with
too many digits, written in the body or bound to a name in it.

* `simulate_congr`: only what is bound to names counts.
* `forBranch_eq`: the assertions of a branch with and without a simulation.
* `returns_simulate_iff`: the simulation fails exactly on integers with too many digits.
-/

namespace BranchCover.Oracle

/-! ### Bindings as look-up tables -/

variable {bindings bindings' : Bindings}

theorem Operand.value_congr (h : ∀ name, bindings.get? name = bindings'.get? name) (a : Operand) :
    a.value bindings = a.value bindings' := by
  cases a with
  | name text => rw [Operand.value, Operand.value, h]
  | integer literal => rfl

theorem Expression.value_congr (h : ∀ name, bindings.get? name = bindings'.get? name)
    (expression : Expression) : expression.value bindings = expression.value bindings' := by
  cases expression with
  | operand a => exact a.value_congr h
  | binary op a b => rw [Expression.value, Expression.value, a.value_congr h, b.value_congr h]

theorem simulate_congr (h : ∀ name, bindings.get? name = bindings'.get? name) (body type : String) :
    simulate body bindings type = simulate body bindings' type := by
  simp only [simulate, Expression.value_congr h]

theorem simulatedOr_congr (h : ∀ name, bindings.get? name = bindings'.get? name)
    (heuristic : List Assertion)
    (function : FunctionDecl) (body : Option String) :
    simulatedOr heuristic function body bindings =
      simulatedOr heuristic function body bindings' := by
  unfold simulatedOr
  rw [simulate_congr h]

theorem forBranch_congr (h : ∀ name, bindings.get? name = bindings'.get? name) (mode : Mode)
    (function : FunctionDecl) (conditions : List Condition) (condition : String) (outcome : Bool)
    (body : Option String) :
    forBranch mode function conditions condition outcome bindings body =
      forBranch mode function conditions condition outcome bindings' body := by
  unfold forBranch simulatedOr
  rw [simulate_congr h]

/-- The assertions of a test of an `if` without a simulation. -/
def heuristicBranch (function : FunctionDecl) (conditions : List Condition) (condition : String)
    (outcome : Bool) : List Assertion :=
  match conditions with
  | [atom] => forAtom function condition (AtomShape.of? atom.text) outcome
  | _ => forCombination function condition outcome

theorem forBranch_eq (mode : Mode) (function : FunctionDecl) (conditions : List Condition)
    (condition : String) (outcome : Bool) (bindings : Bindings) (body : Option String) :
    forBranch mode function conditions condition outcome bindings body =
      if outcome = true ∧ mode = .exact then
        simulatedOr (heuristicBranch function conditions condition outcome) function body bindings
      else .ok (heuristicBranch function conditions condition outcome) := rfl

/-! ### Integers with too many digits -/

/-- The integer literal that a value is, with or without the mark of a long one. -/
def integerOf? (value : String) : Option Literal.IntegerLiteral :=
  match Literal.IntegerLiteral.split? (Text.trim value.toList) with
  | some (literal, rest) => if (dropLongMark rest).isEmpty then some literal else none
  | none => none

/-- The integer literal that an operand stands for under bindings. -/
def Operand.literal? (bindings : Bindings) : Operand → Option Literal.IntegerLiteral
  | integer literal => some literal
  | name text => (bindings.get? text).bind integerOf?

/-- The operands of an expression. -/
def Expression.operands : Expression → List Operand
  | operand a => [a]
  | binary _ a b => [a, b]

/-- The operands that a body computes with. -/
def bodyOperands (body : String) : List Operand :=
  ((statement? body).bind Expression.read?).elim [] Expression.operands

/-- A value is an integer literal if it is written as the operand of this literal, with blanks
around. -/
theorem integerOf?_eq_some_iff {value : String} {literal : Literal.IntegerLiteral} :
    integerOf? value = some literal ↔
    Operand.Written (Text.trim value.toList) (.integer literal) := by
  unfold integerOf?
  constructor
  · intro h
    split at h
    · rename_i found rest hsplit
      obtain ⟨hwf, htext, -⟩ := Literal.IntegerLiteral.split?_eq_some_iff.1 hsplit
      split_ifs at h with hrest
      obtain rfl := Option.some.inj h
      have hmark : rest = [] ∨ rest = ['L'] := by
        unfold dropLongMark at hrest
        split at hrest
        · rename_i after
          obtain rfl : after = [] := by simpa using hrest
          exact Or.inr rfl
        · exact Or.inl (by simpa using hrest)
      rw [← htext]
      exact .integer hwf hmark
    · cases h
  · intro h
    generalize Text.trim value.toList = text at h ⊢
    cases h with
    | @integer _ mark hwf hmark =>
      have hend : ∀ c, mark.head? = some c → Text.isDecimal c = false := by
        rcases hmark with rfl | rfl
        · simp
        · intro c hc
          obtain rfl := Option.some.inj hc
          decide
      have hdrop : (dropLongMark mark).isEmpty = true := by
        rcases hmark with rfl | rfl <;> rfl
      rw [Literal.IntegerLiteral.split?_eq_some_iff.2 ⟨hwf, rfl, hend⟩]
      exact if_pos hdrop

theorem boundInteger_eq (value : String) :
    boundInteger value = (integerOf? value).elim (.ok none) fun literal =>
      literal.value.map some := by
  unfold boundInteger integerOf?
  cases Literal.IntegerLiteral.split? (Text.trim value.toList) with
  | none => rfl
  | some found =>
    dsimp only
    split_ifs <;> rfl

/-- The value of an operand is that of the literal that it stands for. -/
theorem Operand.value_eq (a : Operand) :
    a.value bindings = (a.literal? bindings).elim (.ok none) fun literal =>
      literal.value.map some := by
  cases a with
  | integer literal => rfl
  | name text =>
    rw [Operand.value, Operand.literal?]
    cases bindings.get? text with
    | none => rfl
    | some value => exact boundInteger_eq value

theorem Operand.returns_value_iff {a : Operand} :
    Returns (a.value bindings) ↔ ∀ literal ∈ a.literal? bindings, literal.Short := by
  rw [Operand.value_eq]
  cases a.literal? bindings with
  | none => simp
  | some literal =>
    rw [Option.elim_some, returns_map_iff, Literal.IntegerLiteral.returns_value_iff]
    simp

theorem Expression.returns_value_iff {expression : Expression} :
    Returns (expression.value bindings) ↔
      ∀ a ∈ expression.operands, ∀ literal ∈ a.literal? bindings, literal.Short := by
  cases expression with
  | operand a =>
    rw [Expression.value, Operand.returns_value_iff, Expression.operands]
    simp
  | binary op a b =>
    -- both operands are read before the operation looks at either
    rw [Expression.operands, List.forall_mem_cons, List.forall_mem_singleton,
      ← Operand.returns_value_iff, ← Operand.returns_value_iff, Expression.value]
    refine returns_bind_bind_iff fun left right => ?_
    split <;> exact returns_ok _

/-! ### Values that can be read -/

/-- A value that is an integer literal is read as a number literal with the same digits. -/
theorem parse_of_integerOf? {value : String} {literal : Literal.IntegerLiteral}
    (h : integerOf? value = some literal) :
    Number.parse value = literal.value.map fun n => some (.integer n) := by
  have hwritten := integerOf?_eq_some_iff.1 h
  generalize htext : Text.trim value.toList = text at hwritten
  cases hwritten with
  | @integer _ mark hwf hmark =>
    obtain ⟨suffix, rfl, hsuffix⟩ : ∃ suffix : Option Char, mark = suffix.toList ∧ ∀ c ∈ suffix,
        c = 'L' := by
      rcases hmark with rfl | rfl
      · exact ⟨none, rfl, by simp⟩
      · exact ⟨some 'L', rfl, by simp⟩
    rw [Number.parse_of_literal (hwf.toNumber hsuffix) (by rw [literal.text_toNumber, htext]),
      Number.ofLiteral_toNumber hwf hsuffix]
    cases literal.value <;> rfl

/-- An integer that can be read as a number has no more digits than are read. -/
theorem short_of_returns_parse {value : String} (h : Returns (Number.parse value))
    {literal : Literal.IntegerLiteral} (hliteral : integerOf? value = some literal) :
    literal.Short := by
  rw [parse_of_integerOf? hliteral, returns_map_iff] at h
  exact Literal.IntegerLiteral.returns_value_iff.1 h

/-- The integers that a body of a function with an integral result computes with can be read. -/
def BodyReadable (function : FunctionDecl) (body : Option String) (bindings : Bindings) : Prop :=
  TypeText.base function.returnType ∈ ["Int", "Long", "Short", "Byte"] →
    ∀ a ∈ bodyOperands (body.getD ""), ∀ literal ∈ a.literal? bindings, literal.Short

/-- Where all bound values can be read, only the literals in the body count. -/
theorem bodyReadable_iff_nil {function : FunctionDecl} {body : Option String}
    (h : ∀ name value, bindings.get? name = some value → Returns (Number.parse value)) :
    BodyReadable function body bindings ↔ BodyReadable function body [] := by
  unfold BodyReadable
  refine imp_congr_right fun _ => forall_congr' fun a => imp_congr_right fun _ => ?_
  cases a with
  | integer literal => rfl
  | name text =>
    refine iff_of_true (fun literal hliteral => ?_) (by simp [Operand.literal?, Bindings.get?])
    obtain ⟨value, hvalue, hinteger⟩ := Option.bind_eq_some_iff.1 hliteral
    exact short_of_returns_parse (h text value hvalue) hinteger

/-- A body that writes an expression computes with its operands. -/
theorem bodyOperands_of_writes {body : String} {expression : Expression}
    (h : BodyWrites body.toList expression) :
    bodyOperands body = expression.operands := by
  rw [bodyOperands, read_body_iff.2 h, Option.elim_some]

/-- A body of ones computes with that one integer. -/
theorem bodyOperands_ones (n : ℕ) :
    bodyOperands (String.ofList (List.replicate (n + 1) '1')) =
      [.integer ⟨false, List.replicate (n + 1) '1'⟩] := by
  have hwrites : BodyWrites (String.ofList (List.replicate (n + 1) '1')).toList
      (.operand (.integer ⟨false, List.replicate (n + 1) '1'⟩)) := by
    rw [String.toList_ofList]
    exact bodyWrites_literal (Literal.IntegerLiteral.wellFormed_ones n)
  rw [bodyOperands_of_writes hwrites, Expression.operands]

/-- **A simulation fails exactly on integers with too many digits.** -/
theorem returns_simulate_iff {function : FunctionDecl} {body : Option String} :
    Returns (simulate (body.getD "") bindings function.returnType) ↔
      BodyReadable function body bindings := by
  unfold simulate BodyReadable bodyOperands
  by_cases htype : TypeText.base function.returnType ∈ ["Int", "Long", "Short", "Byte"]
  · rw [if_pos htype]
    cases (statement? (body.getD "")).bind Expression.read? with
    | none => simp
    | some expression =>
      rw [returns_map_iff, Expression.returns_value_iff]
      simp [htype]
  · rw [if_neg htype]
    simp [htype]

/-- A function without result has no integral one. -/
theorem not_integral_of_void {type : String} (hvoid : TypeText.family type = .void) :
    TypeText.base type ∉ ["Int", "Long", "Short", "Byte"] := by
  intro htype
  have hall : ∀ name ∈ ["Int", "Long", "Short", "Byte"], ¬ (name = "" ∨ name ∈ TypeText.voidNames) ∧
      name ∈ TypeText.numericNames := by decide
  obtain ⟨hnot, hnumeric⟩ := hall _ htype
  rw [TypeText.family, if_neg hnot, if_pos hnumeric] at hvoid
  cases hvoid

theorem returns_forBranch_iff {mode : Mode} {function : FunctionDecl} {conditions : List Condition}
    {condition : String} {outcome : Bool} {body : Option String} :
    Returns (forBranch mode function conditions condition outcome bindings body) ↔
      (mode = .exact → outcome = true → BodyReadable function body bindings) := by
  unfold forBranch
  by_cases h : outcome = true ∧ mode = .exact
  · rw [if_pos h, simulatedOr, returns_map_iff, returns_simulate_iff]
    simp [h.1, h.2]
  · rw [if_neg h]
    exact iff_of_true (returns_ok _) fun hmode houtcome => absurd ⟨houtcome, hmode⟩ h

theorem returns_forWhenEntry_iff {mode : Mode} {function : FunctionDecl} {entry : String}
    {body subjectName : Option String} :
    Returns (forWhenEntry mode function entry bindings body subjectName) ↔
      (mode = .exact → entry ≠ "else" → BodyReadable function body bindings) := by
  unfold forWhenEntry
  by_cases hvoid : TypeText.family function.returnType = .void
  · rw [if_pos hvoid]
    exact iff_of_true (returns_ok _) fun _ _ htype => absurd htype (not_integral_of_void hvoid)
  · rw [if_neg hvoid]
    by_cases h : mode = .exact ∧ entry ≠ "else"
    · rw [if_pos h, simulatedOr, returns_map_iff, returns_simulate_iff]
      simp [h.1, h.2]
    · rw [if_neg h]
      exact iff_of_true (returns_ok _) fun hmode hentry => absurd ⟨hmode, hentry⟩ h

/-- For an entry that is no `else` the exact oracle is asked, whatever the function returns. -/
theorem exists_forWhenEntry (function : FunctionDecl) (bindings : Bindings)
    (body subjectName : Option String)
    {entry : String} (hentry : entry ≠ "else") :
    ∃ heuristic, forWhenEntry .heuristic function entry bindings body subjectName = .ok heuristic ∧
      forWhenEntry .exact function entry bindings body subjectName =
        simulatedOr heuristic function body bindings := by
  unfold forWhenEntry
  dsimp only
  by_cases hvoid : TypeText.family function.returnType = .void
  · rw [if_pos hvoid, if_pos hvoid]
    refine ⟨_, rfl, ?_⟩
    rw [simulatedOr, simulate, if_neg (not_integral_of_void hvoid)]
    rfl
  · rw [if_neg hvoid, if_neg hvoid, if_neg (by simp), if_pos ⟨rfl, hentry⟩]
    exact ⟨_, rfl, rfl⟩

/-- The exact oracle leaves the `else` alone. -/
theorem forWhenEntry_else (mode : Mode) (function : FunctionDecl) (bindings : Bindings)
    (body subjectName : Option String) :
    forWhenEntry mode function "else" bindings body subjectName =
      forWhenEntry .heuristic function "else" bindings body subjectName := by
  have hne : ∀ mode : Mode, ¬ (mode = .exact ∧ "else" ≠ "else") := fun mode h => h.2 rfl
  unfold forWhenEntry
  dsimp only
  rw [if_neg (hne mode), if_neg (hne .heuristic)]

end BranchCover.Oracle
