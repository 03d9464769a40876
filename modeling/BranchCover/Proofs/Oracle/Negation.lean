import BranchCover.Proofs.Condition.Decomposition
import BranchCover.Proofs.Condition.Shape
import BranchCover.Proofs.Oracle.Simulation

/-!
# Negated comparisons

A comparison is negated by its operator or by a negation in front of it, and both conditions have
the same outcomes. The heuristic oracle follows the operator. It looks up a negated atom by the
atom's text, with the outcome of the branch as that of the text, so the two never check the same.

* `Condition.comparing`, `Condition.negation`: the two as they are written.
* `Condition.IsComparison.of_operator`: one operator in a comparison can be put in the place of
  another.
* `Oracle.heuristicChecks`: what the heuristic oracle checks in a branch, without the wording.
* `Oracle.heuristicChecks_negation`: the checks of a comparison and of its negation.
-/

namespace BranchCover

namespace Condition

/-! ### Comparisons as they are written -/

/-- A comparison as it is written. -/
def comparing (subject : String) (operator : Comparator) (operand : String) : String :=
  subject ++ " " ++ operator.text ++ " " ++ operand

/-- The negation of a condition as it is written. -/
def negation (condition : String) : String := "!(" ++ condition ++ ")"

/-- A text that is one atom, which compares its subject by its operator. -/
structure IsComparison (subject : String) (operator : Comparator) (operand : String) : Prop where
  atom : decompose (comparing subject operator operand) =
      [{ text := trimmed (comparing subject operator operand) }]
  shape : ∃ text, AtomShape.of? (comparing subject operator operand) =
      some (.comparison subject operator text)

variable {subject operand condition : String} {operator known : Comparator}

theorem isPlain_of_isWord {c : Char} (h : Text.isWord c = true) : isPlain c = true := by
  have hne : ∀ d, Text.isWord d = false → c ≠ d := by
    rintro d hd rfl
    rw [h] at hd
    cases hd
  simp [isPlain, isQuote, hne '"' (by decide), hne '\'' (by decide), hne '(' (by decide),
    hne ')' (by decide), hne '&' (by decide), hne '|' (by decide)]

/-- A name with an operator behind it can start an atom. -/
theorem isFront_comparing (hsubject : Text.isIdentifier subject.toList = true)
    (hoperator : operator ∈ Comparator.all) :
      IsFront (subject.toList ++ ' ' :: operator.text.toList) := by
  have hplain : ∀ o ∈ Comparator.all, o.text.toList.all isPlain = true := by decide
  have hlast : ∀ o ∈ Comparator.all, o.text.toList.getLast?.all (!Text.isBlank ·) = true := by
    decide
  obtain ⟨c, name, hname⟩ := List.exists_cons_of_ne_nil (Text.ne_nil_of_isIdentifier hsubject)
  obtain ⟨hstart, -⟩ := Text.isIdentifier_cons.1 (hname ▸ hsubject)
  refine ⟨?_, ⟨c, by simp [hname], ?_, (Text.plain_of_isIdentifierStart hstart).1⟩, fun d hd => ?_⟩
  · refine List.forall_mem_append.2 ⟨fun d hd =>
      isPlain_of_isWord (Text.isWord_of_mem hsubject d hd), ?_⟩
    exact List.forall_mem_cons.2 ⟨by decide, List.all_eq_true.1 (hplain operator hoperator)⟩
  · rintro rfl
    exact absurd hstart (by decide)
  · obtain ⟨mark, tail, htext, -⟩ := Comparator.exists_text hoperator
    have hd' : operator.text.toList.getLast? = some d := by
      rw [htext] at hd ⊢
      simpa using hd
    have := hlast operator hoperator
    rw [hd'] at this
    simpa using this

theorem toList_comparing (subject operand : String) (operator : Comparator) :
    (comparing subject operator operand).toList =
      (subject.toList ++ ' ' :: operator.text.toList) ++ ' ' :: operand.toList := by
  simp [comparing]

/-- A comparison without blanks and parentheses around it. -/
theorem stripParenthesesChars_comparing (hsubject : Text.isIdentifier subject.toList = true)
    (hoperator : operator ∈ Comparator.all) :
      stripParenthesesChars (comparing subject operator operand).toList =
      subject.toList ++ ([' '] ++ (operator.text.toList ++
        Text.trimEnd (' ' :: operand.toList))) := by
  have hfront := isFront_comparing hsubject hoperator
  obtain ⟨c, hhead, -, hblank⟩ := hfront.first
  have htrim : Text.trim (comparing subject operator operand).toList =
      (subject.toList ++ ' ' :: operator.text.toList) ++ Text.trimEnd (' ' :: operand.toList) := by
    rw [toList_comparing]
    exact Text.trim_append_of_ends hhead hblank hfront.last
  have hparenthesis : (Text.trim (comparing subject operator operand).toList).head? ≠ some '(' := by
    rw [htrim, List.head?_append, hhead]
    intro heq
    obtain rfl := Option.some.inj heq
    exact absurd (hfront.plain '(' (List.mem_of_head? hhead)) (by decide)
  rw [stripParenthesesChars_of_not_isWrapped (isWrapped_eq_false hparenthesis), htrim]
  simp

theorem head?_trimEnd_blank (text : List Char) : (Text.trimEnd (' ' :: text)).head? ≠ some '=' := by
  obtain ⟨behind, hbehind⟩ := Text.isPrefix_dropEndWhile Text.isBlank (' ' :: text)
  intro heq
  have hhead : (' ' :: text).head? = some '=' := by
    rw [← hbehind, List.head?_append, ← Text.trimEnd, heq]
    rfl
  cases hhead

theorem IsComparison.isIdentifier (h : IsComparison subject operator operand) :
    Text.isIdentifier subject.toList = true := by
  obtain ⟨text, hshape⟩ := h.shape
  exact AtomShape.isIdentifier_subject hshape

/-- **One operator in a comparison can be put in the place of another.** -/
theorem IsComparison.of_operator (h : IsComparison subject known operand)
    (hknown : known ∈ Comparator.all)
    (hoperator : operator ∈ Comparator.all) : IsComparison subject operator operand := by
  have hsubject := h.isIdentifier
  have hblank : ∀ c ∈ [' '], Text.isBlank c = true := List.forall_mem_singleton.2 rfl
  refine ⟨?_, ?_⟩
  · have hatom := h.atom
    have hwritten : ∀ operator, comparing subject operator operand =
        String.ofList ((subject.toList ++ ' ' :: operator.text.toList) ++ ' ' :: operand.toList) :=
        fun operator => by
      rw [← toList_comparing, String.ofList_toList]
    rw [trimmed, hwritten, String.toList_ofList] at hatom ⊢
    exact decompose_front (isFront_comparing hsubject hknown)
      (isFront_comparing hsubject hoperator) hatom
  · obtain ⟨text, hshape⟩ := h.shape
    have hoperand := AtomShape.isOperand_of_comparison hsubject hblank hknown
      (head?_trimEnd_blank _)
      (stripParenthesesChars_comparing hsubject hknown) hshape
    have hcomparison := AtomShape.of?_eq_comparison hsubject hblank hoperator
      (head?_trimEnd_blank _)
      (stripParenthesesChars_comparing hsubject hoperator) hoperand
    rw [String.ofList_toList] at hcomparison
    exact ⟨_, hcomparison⟩

/-! ### Negations -/

/-- A negated condition is one negated atom, the condition in its parentheses. -/
theorem decompose_negation (condition : String) :
    decompose (negation condition) = [{ text := "(" ++ condition ++ ")", negated := true }] := by
  have hchars : (negation condition).toList = '!' :: '(' :: (condition.toList ++ [')']) := by
    simp [negation]
  have htext : String.ofList ('(' :: (condition.toList ++ [')'])) = "(" ++ condition ++ ")" := by
    rw [← String.toList_inj]
    simp
  rw [decompose, hchars, scan_negation (by simp), trim_parenthesized, htext]

/-- Whether a parenthesis of an operand closes one that stands before the comparison. -/
def closesOuter (operand : String) : Bool := closesEarly 1 (operand.toList ++ [')'])

/-- The parentheses around a comparison belong together unless a parenthesis of the operand closes
the first one. -/
theorem isWrapped_comparing (hsubject : Text.isIdentifier subject.toList = true)
    (hoperator : operator ∈ Comparator.all) (operand : String) :
    isWrapped ("(" ++ comparing subject operator operand ++ ")").toList = !closesOuter operand := by
  have hchars : ("(" ++ comparing subject operator operand ++ ")").toList =
      '(' :: (((subject.toList ++ ' ' :: operator.text.toList ++ [' ']) ++ operand.toList) ++
        [')']) := by
    simp [toList_comparing]
  have hplain := (isFront_comparing hsubject hoperator).plain
  have hflat : IsFlat (subject.toList ++ ' ' :: operator.text.toList ++ [' ']) := by
    refine isFlat_append.2 ⟨⟨fun hc => ?_, fun hc => ?_⟩,
      isFlat_of_isBlank (List.forall_mem_singleton.2 rfl)⟩
    · exact absurd (hplain _ hc) (by decide)
    · exact absurd (hplain _ hc) (by decide)
  rw [Bool.eq_iff_iff, hchars, isWrapped_parenthesized, overcloses_flat_append hflat,
    ← closesEarly_iff_overcloses operand.toList ')', closesOuter, Bool.not_eq_true,
    Bool.not_eq_true']

/-- A parenthesis in a literal counts. -/
example : closesOuter "\")\"" = true := by decide

end Condition

/-! ### What is checked -/

/-- A check on the result of a call: what is checked, and what it is compared with. -/
structure Check where
  kind : AssertionKind
  expected : Option String := none
  subject : String := "result"
  deriving DecidableEq, Repr

/-- What an assertion checks, without its wording. -/
def Assertion.check (assertion : Assertion) : Check where
  kind := assertion.kind
  expected := assertion.expected
  subject := assertion.subject

namespace Oracle

open Condition

/-- What the heuristic oracle checks in a branch. -/
def heuristicChecks (function : FunctionDecl) (condition : String) (outcome : Bool)
    (bindings : Bindings)
    (body : Option String) : Except Number.Error (List Check) :=
  (forBranch .heuristic function (decompose condition) condition outcome bindings body).map
    (·.map Assertion.check)

/-- The check that the result is a parameter, or that it is not. -/
def parameterCheck (function : FunctionDecl) (name : String) (holds : Bool) : Check where
  kind := if holds then .equals else .notEquals
  expected := some name
  subject := resultOf function

/-- The check that the result is not negative. -/
def nonNegativeCheck (function : FunctionDecl) : Check where
  kind := .atLeast
  expected := some "0"
  subject := resultOf function

variable {function : FunctionDecl} {parameter : Parameter} {condition operand : String}
  {operator : Comparator}
  {atom : Condition} (outcome : Bool) (bindings : Bindings) (body : Option String)

/-- A branch whose condition is one atom is checked by the shape of the atom's text. A negation of
the atom has no part in it. -/
theorem heuristicChecks_atom (hnumeric : TypeText.family function.returnType = .numeric)
    (hatom : decompose condition = [atom]) :
      heuristicChecks function condition outcome bindings body =
      .ok [basicCheck.check, (numericCheck function condition
        (AtomShape.of? atom.text) outcome).check] := by
  rw [heuristicChecks, forBranch_eq, if_neg (by simp), hatom, heuristicBranch, forAtom, hnumeric]
  rfl

theorem isSome_parameter? (h : parameter ∈ function.parameters) :
    (parameter? function parameter.name).isSome = true := by
  rw [parameter?, List.find?_isSome]
  exact ⟨parameter, List.mem_reverse.2 h, beq_self_eq_true _⟩

/-- An equality with a parameter is checked on a true outcome as it is, and a difference from it on
a false one. -/
theorem check_numericCheck_comparison (hparameter : parameter ∈ function.parameters)
    (hoperator : operator = .equal ∨ operator = .notEqual) (text : Option String) :
    (numericCheck function condition (some (.comparison parameter.name operator text))
      outcome).check =
      parameterCheck function parameter.name (outcome == (operator == .equal)) := by
  have hsome : (parameter? function parameter.name).isNone = false := by
    simpa using isSome_parameter? hparameter
  rcases hoperator with rfl | rfl <;> cases outcome <;> simp [numericCheck, hsome] <;> rfl

/-- A check that a result is a parameter, and one that it is not, are no equals, nor is one for a
result that is not negative equal to them. -/
theorem checks_apart {name : String} {hidden holds holds' : Bool} (h : holds ≠ holds') :
    (.ok [basicCheck.check, if hidden then nonNegativeCheck function
      else parameterCheck function name holds] :
        Except Number.Error (List Check)) ≠ .ok [basicCheck.check,
        parameterCheck function name holds'] := by
  intro heq
  have hcheck : (if hidden then nonNegativeCheck function else parameterCheck function name holds) =
      parameterCheck function name holds' := by
    simpa using heq
  have hkind := congrArg Check.kind hcheck
  cases hidden with
  | true => cases holds' <;> cases hkind
  | false =>
    cases holds <;> cases holds'
    · exact h rfl
    · cases hkind
    · cases hkind
    · exact h rfl

/-- The checks of a comparison with a parameter. -/
theorem heuristicChecks_comparing (hnumeric : TypeText.family function.returnType = .numeric)
    (hparameter : parameter ∈ function.parameters)
    (hoperator : operator = .equal ∨ operator = .notEqual)
    (hcomparison : IsComparison parameter.name operator operand) :
    heuristicChecks function (comparing parameter.name operator operand) outcome bindings body =
      .ok [basicCheck.check, parameterCheck function parameter.name
        (outcome == (operator == .equal))] := by
  obtain ⟨text, hshape⟩ := hcomparison.shape
  rw [heuristicChecks_atom outcome bindings body hnumeric hcomparison.atom,
    AtomShape.of?_trimmed, hshape, check_numericCheck_comparison outcome hparameter hoperator]

/-- The checks of a negated comparison with a parameter are those of the comparison, unless a
parenthesis of the operand hides it. -/
theorem heuristicChecks_negation_comparing
    (hnumeric : TypeText.family function.returnType = .numeric)
    (hparameter : parameter ∈ function.parameters)
    (hoperator : operator = .equal ∨ operator = .notEqual)
    (hcomparison : IsComparison parameter.name operator operand) :
    heuristicChecks function (negation (comparing parameter.name operator operand)) outcome
      bindings body =
      .ok [basicCheck.check, if closesOuter operand then nonNegativeCheck function
        else parameterCheck function parameter.name (outcome == (operator == .equal))] := by
  obtain ⟨text, hshape⟩ := hcomparison.shape
  have hknown : operator ∈ Comparator.all := by rcases hoperator with rfl | rfl <;> decide
  have hwrapped := isWrapped_comparing hcomparison.isIdentifier hknown operand
  rw [heuristicChecks_atom outcome bindings body hnumeric (decompose_negation _),
    AtomShape.of?_parenthesized, hwrapped, hshape]
  cases closesOuter operand with
  | true => rfl
  | false => rw [← check_numericCheck_comparison outcome hparameter hoperator]; rfl

/-- **The heuristic oracle does not follow the negation of an atom.** A comparison `x == k` with a
parameter and its difference `x != k` are checked on opposite outcomes. The negation of either is
one negated atom, which is checked on the same outcome as the comparison in its parentheses, or for
a result that is not negative if a parenthesis of `k` closes the one in front. So the negation of
one is never checked like the other, which has the same outcomes. -/
theorem heuristicChecks_negation {k : String}
    (hnumeric : TypeText.family function.returnType = .numeric)
    (hparameter : parameter ∈ function.parameters)
    (hequation : IsComparison parameter.name .equal k)
    (outcome : Bool) (bindings : Bindings) (body : Option String) :
    (∀ operator, operator = .equal ∨ operator = .notEqual →
      decompose (negation (comparing parameter.name operator k)) =
          [{ text := "(" ++ comparing parameter.name operator k ++ ")", negated := true }] ∧
        heuristicChecks function (comparing parameter.name operator k) outcome bindings body =
          .ok [basicCheck.check, parameterCheck function parameter.name
            (outcome == (operator == .equal))] ∧
        heuristicChecks function (negation (comparing parameter.name operator k)) outcome
          bindings body =
          .ok [basicCheck.check, if closesOuter k then nonNegativeCheck function
            else parameterCheck function parameter.name (outcome == (operator == .equal))]) ∧
      heuristicChecks function (negation (comparing parameter.name .equal k)) outcome
        bindings body ≠
        heuristicChecks function (comparing parameter.name .notEqual k) outcome bindings body ∧
      heuristicChecks function (negation (comparing parameter.name .notEqual k)) outcome
        bindings body ≠
        heuristicChecks function (comparing parameter.name .equal k) outcome bindings body := by
  have hcomparison : ∀ operator, operator = .equal ∨ operator = .notEqual →
      IsComparison parameter.name operator k := by
    rintro operator (rfl | rfl)
    · exact hequation
    · exact hequation.of_operator (by decide) (by decide)
  have hplain := fun operator hoperator =>
    heuristicChecks_comparing outcome bindings body hnumeric hparameter hoperator
      (hcomparison operator hoperator)
  have hnegated := fun operator hoperator =>
    heuristicChecks_negation_comparing outcome bindings body hnumeric hparameter
    hoperator (hcomparison operator hoperator)
  refine ⟨fun operator hoperator =>
    ⟨decompose_negation _, hplain operator hoperator, hnegated operator hoperator⟩,
    ?_, ?_⟩
  · rw [hnegated .equal (Or.inl rfl), hplain .notEqual (Or.inr rfl)]
    exact checks_apart (by cases outcome <;> decide)
  · rw [hnegated .notEqual (Or.inr rfl), hplain .equal (Or.inl rfl)]
    exact checks_apart (by cases outcome <;> decide)

/-- A function of an integer with an integer result. -/
def demoInteger : FunctionDecl where
  name := "f"
  qualifiedName := "f"
  file := "a.kt"
  line := 1
  endLine := 1
  scope := "function:f"
  returnType := "Int"
  parameters := [{ name := "x", typeName := "Int" }]

theorem isComparison_demo : IsComparison "x" .equal "5" := by
  have hatom : IsAtom (comparing "x" .equal "5") := by decide
  exact ⟨by rw [hatom.trimmed, hatom.decompose_eq], some "5", by decide⟩

/-- On a false outcome the result has to be `x` for `!(x != 5)`, and must not be `x` for
`x == 5`. -/
theorem heuristicChecks_negation_demo :
    TypeText.family demoInteger.returnType = .numeric ∧
    { name := "x", typeName := "Int" } ∈ demoInteger.parameters ∧
      IsComparison "x" .equal "5" ∧
      heuristicChecks demoInteger "!(x != 5)" false [] none =
        .ok [basicCheck.check, { kind := .equals, expected := some "x" }] ∧
      heuristicChecks demoInteger "x == 5" false [] none =
        .ok [basicCheck.check, { kind := .notEquals, expected := some "x" }] := by
  have hnumeric : TypeText.family demoInteger.returnType = .numeric := by decide
  have hparameter : ({ name := "x", typeName := "Int" } : Parameter) ∈ demoInteger.parameters := by
    decide
  have hchecks := (heuristicChecks_negation hnumeric hparameter isComparison_demo false [] none).1
  have hnegated : negation (comparing "x" .notEqual "5") = "!(x != 5)" := by decide
  have hplain : comparing "x" .equal "5" = "x == 5" := by decide
  exact ⟨hnumeric, hparameter, isComparison_demo, hnegated ▸ (hchecks .notEqual (Or.inr rfl)).2.2,
    hplain ▸ (hchecks .equal (Or.inl rfl)).2.1⟩

/-- On a true outcome the result has to be `x` for `!(x == 5)`, and must not be `x` for `x != 5`. -/
theorem heuristicChecks_negation_differing :
    TypeText.family demoInteger.returnType = .numeric ∧
    { name := "x", typeName := "Int" } ∈ demoInteger.parameters ∧
      decompose "x == 5" = [{ text := "x == 5" }] ∧
      AtomShape.of? "x == 5" = some (.comparison "x" (some .equal) (some "5")) ∧
      decompose "!(x == 5)" = [{ text := "(x == 5)", negated := true }] ∧
      heuristicChecks demoInteger "!(x == 5)" true [] none =
        .ok [basicCheck.check, { kind := .equals, expected := some "x" }] ∧
      heuristicChecks demoInteger "x != 5" true [] none =
        .ok [basicCheck.check, { kind := .notEquals, expected := some "x" }] := by
  have hplain : IsAtom "x == 5" := by decide
  have hdifference : IsAtom "x != 5" := by decide
  have hnegated : decompose "!(x == 5)" = [{ text := "(x == 5)", negated := true }] :=
    decompose_negation "x == 5"
  refine ⟨by decide, by decide, hplain.decompose_eq, by decide, hnegated, ?_, ?_⟩
  · rw [heuristicChecks_atom true [] none (by decide) hnegated]
    decide
  · rw [heuristicChecks_atom true [] none (by decide) hdifference.decompose_eq]
    decide

end Oracle

end BranchCover
