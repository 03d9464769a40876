import BranchCover.Proofs.TypeText.Function
import BranchCover.Proofs.Value.Readable
import BranchCover.Value.Neutral

/-!
# Neutral values of function types

The neutral value of a type is a lambda as soon as there is an arrow in the text of the type, also
in the arguments of a type that is no function type. How many parameters the lambda has, and what
its body is, is read off the text.

* `isLambda_neutral_iff`: the types with a lambda as their neutral value.
* `neutral_of_isFunction`: the lambda of a function type, with no bound on the depth of function
  types.
* `neutral_text`: the neutral values of types as they are written.
-/

namespace BranchCover.Value

open TypeExpr (placeholders)

variable {type value : String}

/-! ### Lambdas -/

/-- A text that is written as a lambda. -/
def IsLambda (value : String) : Prop := ∃ parameters body, value = lambda parameters body

/-- Whether a text starts with a brace. -/
def startsBrace (value : String) : Bool := value.toList.head? == some '\x7b'

theorem IsLambda.startsBrace (h : IsLambda value) : startsBrace value = true := by
  obtain ⟨parameters, body, rfl⟩ := h
  cases parameters with
  | zero =>
    rw [lambda]
    split
    · rfl
    · simp [Value.startsBrace]
  | succ parameters => simp [lambda, Value.startsBrace]

theorem startsBrace_ite {p : Prop} [Decidable p] {a b : String} (ha : startsBrace a = false)
    (hb : startsBrace b = false) :
    startsBrace (if p then a else b) = false := by
  by_cases hp : p
  · rwa [if_pos hp]
  · rwa [if_neg hp]

/-- A call of a factory starts like the name of the factory. -/
theorem startsBrace_call {table : List (String × String)} {name factory : String}
    (h : table.lookup name = some factory)
    (hall : ∀ factory ∈ table.map (·.2), startsBrace (factory ++ "()") = false) :
      startsBrace (factory ++ "()") = false :=
  hall factory (mem_map_snd_of_lookup h)

/-- No value of a type that is no function type starts like a lambda. -/
theorem startsBrace_plainNeutral (type : String) : startsBrace (plainNeutral type) = false := by
  unfold plainNeutral
  iterate 11 refine startsBrace_ite (by decide) ?_
  split
  · rename_i factory hfactory
    exact startsBrace_call hfactory (by decide)
  · split
    · rename_i factory hfactory
      exact startsBrace_call hfactory (by decide)
    · exact startsBrace_ite (by decide) (startsBrace_ite (by decide) (by decide))

/-- **The neutral value of a type is a lambda exactly if the type counts as a function type.** -/
theorem isLambda_neutral_iff : IsLambda (neutral type) ↔ TypeText.isFunction type = true := by
  rw [neutral, neutralWithin]
  by_cases hempty : type = ""
  · subst hempty
    rw [if_pos rfl]
    exact iff_of_false (fun h => absurd h.startsBrace (by decide)) (by decide)
  · rw [if_neg hempty]
    split_ifs with hfunction
    · exact iff_of_true ⟨_, _, rfl⟩ hfunction
    · refine iff_of_false (fun h => ?_) hfunction
      exact absurd h.startsBrace (by simp [startsBrace_plainNeutral])

/-! ### Neutral values -/

/-- The body of a lambda with a result type: none for `Unit`, and else the neutral value of the
type. -/
def lambdaBody (result : String) : String :=
  if TypeText.base result = "Unit" ∨ TypeText.base result = "" then "" else " " ++ neutral result

/-- The body of a lambda with a result type in which function types return function types at most so
often. -/
def bodyWithin (depth : ℕ) (result : String) : String :=
  if TypeText.base result = "Unit" ∨ TypeText.base result = "" then ""
    else " " ++ neutralWithin depth result

theorem neutralWithin_succ (depth : ℕ) (type : String) : neutralWithin (depth + 1) type =
    if type = "" then mock
    else if TypeText.isFunction type then
      lambda (TypeText.functionParts type).1.length
        (bodyWithin depth (TypeText.functionParts type).2)
    else plainNeutral type := rfl

/-- Where no arrow is found, the bound on the depth does not matter, as the result is `Unit`. -/
theorem bodyWithin_functionParts {depth other : ℕ}
    (h : (TypeText.functionParts type).2.length < type.length →
      neutralWithin depth (TypeText.functionParts type).2 =
        neutralWithin other (TypeText.functionParts type).2) :
    bodyWithin depth (TypeText.functionParts type).2 =
      bodyWithin other (TypeText.functionParts type).2 := by
  rcases TypeText.length_functionParts type with hunit | hshorter
  · have hname : TypeText.base (TypeText.functionParts type).2 = "Unit" := by
      rw [hunit]
      decide
    rw [bodyWithin, bodyWithin, if_pos (Or.inl hname), if_pos (Or.inl hname)]
  · rw [bodyWithin, bodyWithin, h hshorter]

/-- Two bounds on the depth of function types make no difference, if both are above the length of
the type. -/
theorem neutralWithin_eq {depth other : ℕ} (h : type.length < depth)
    (hother : type.length < other) :
    neutralWithin depth type = neutralWithin other type := by
  induction depth generalizing type other with
  | zero => omega
  | succ depth ih =>
    obtain ⟨other, rfl⟩ := Nat.exists_eq_succ_of_ne_zero (Nat.ne_of_gt (Nat.zero_lt_of_lt hother))
    rw [neutralWithin_succ, Nat.succ_eq_add_one, neutralWithin_succ]
    rw [bodyWithin_functionParts fun hshorter =>
      ih (by omega) (Nat.lt_of_lt_of_le hshorter (Nat.le_of_lt_succ hother))]

/-- **The neutral value of a function type** is a lambda with its parameters and the neutral value
of its result. -/
theorem neutral_of_isFunction (h : TypeText.isFunction type = true) : neutral type =
    lambda (TypeText.functionParts type).1.length (lambdaBody (TypeText.functionParts type).2) := by
  have hne : type ≠ "" := by
    rintro rfl
    exact absurd h (by decide)
  rw [neutral, neutralWithin_succ, if_neg hne, if_pos h]
  exact congrArg (lambda _) (bodyWithin_functionParts fun hshorter =>
    neutralWithin_eq hshorter (Nat.lt_succ_self _))

/-- The body of a lambda with a name as its result type is empty exactly if the last segment of the
name is `Unit`. -/
theorem lambdaBody_named (name : DottedName) (arguments : List TypeExpr) (marks : ℕ) :
    lambdaBody (TypeExpr.named name arguments marks).text =
      if name.last = "Unit".toList then ""
        else " " ++ neutral (TypeExpr.named name arguments marks).text := by
  have hlast : name.last ≠ [] := name.nonempty _ List.mem_cons_self
  have hunit : String.ofList name.last = "Unit" ↔ name.last = "Unit".toList := by
    rw [← String.toList_inj, String.toList_ofList]
  have hempty : String.ofList name.last ≠ "" := by
    rw [Ne, ← String.toList_inj, String.toList_ofList]
    exact hlast
  rw [lambdaBody, TypeExpr.base_named]
  exact if_congr ((or_iff_left hempty).trans hunit) rfl rfl

/-! ### Types as they are written -/

/-- **The neutral values of function types.** The neutral value of a type is a lambda exactly if
there is a function type in it, be it in an argument. For a function type without a parenthesis at
its end, and for one in a pair of parentheses, the lambda has a parameter for each of the type and
for each comma in these, and the neutral value of the result as its body; in the first case the
question marks of the result are lost. There are as many parameters as in the type exactly if no
parameter has a comma. If the result is a name, the body is empty exactly if the last segment of the
name is `Unit`. A type in which no arrow is found has an empty lambda. -/
theorem neutral_text (type : TypeExpr) :
    (IsLambda (neutral type.text) ↔ type.HasArrow) ∧
    (∀ parameters result, type = .arrow parameters result → ¬result.Closes →
      neutral type.text = lambda (placeholders parameters) (lambdaBody result.unmarked.text)) ∧
    (∀ parameters result marks, type = .wrapped (.arrow parameters result) marks →
      neutral type.text = lambda (placeholders parameters) (lambdaBody result.text)) ∧
    (∀ parameters, placeholders parameters = parameters.length ↔
      ∀ parameter ∈ parameters, ',' ∉ parameter.chars) ∧
    (∀ name arguments marks, lambdaBody (TypeExpr.named name arguments marks).text =
      if name.last = "Unit".toList then ""
        else " " ++ neutral (TypeExpr.named name arguments marks).text) ∧
    (type.HasArrow → type.Unread → neutral type.text = "\x7b \x7d") := by
  have hfunction : TypeText.isFunction type.text = true ↔ type.HasArrow := by
    rw [TypeText.isFunction_iff, TypeExpr.toList_text, TypeExpr.isInfix_chars_iff]
  refine ⟨isLambda_neutral_iff.trans hfunction, ?_, ?_,
    fun _ => TypeExpr.placeholders_eq_length_iff, lambdaBody_named, fun harrow hunread => ?_⟩
  · rintro parameters result rfl hcloses
    obtain ⟨texts, hlength, hparts⟩ := TypeText.functionParts_arrow parameters hcloses
    rw [neutral_of_isFunction (hfunction.2 (.arrow parameters result)), hparts, hlength]
  · rintro parameters result marks rfl
    obtain ⟨texts, hlength, hparts⟩ := TypeText.functionParts_wrapped parameters result marks
    rw [neutral_of_isFunction (hfunction.2 (.wrapped (.arrow parameters result))), hparts, hlength]
  · rw [neutral_of_isFunction (hfunction.2 harrow), TypeText.functionParts_unread hunread]
    decide

/-- The name `Int`. -/
def intName : DottedName where
  last := ['I', 'n', 't']
  nonempty := by decide
  words := List.forall_mem_singleton.2 (List.all_eq_true.1 rfl)

/-- The name `List`. -/
def listName : DottedName where
  last := ['L', 'i', 's', 't']
  nonempty := by decide
  words := List.forall_mem_singleton.2 (List.all_eq_true.1 rfl)

/-- The type `Int`. -/
def intType : TypeExpr := .named intName [] 0

/-- A function type as an argument, a parameter with a comma, a function type in parentheses, and a
result in parentheses. -/
theorem neutral_text_nested :
    IsLambda (neutral "List<(Int) -> Int>") ∧
    neutral "(List<Int, Int>) -> Int" = "\x7b _, _ -> 0 \x7d" ∧
      neutral "((Int) -> List?)?" = "\x7b _ -> null \x7d" ∧
      neutral "(Int) -> (Int)?" = "\x7b \x7d" := by
  let function := TypeExpr.arrow [intType] intType
  let pair := TypeExpr.named listName [intType, intType] 0
  let closing := TypeExpr.arrow [intType] (.wrapped intType 1)
  have hinside : (TypeExpr.named listName [function] 0).HasArrow :=
    .argument List.mem_cons_self (.arrow _ _)
  have hclosing : closing.Unread :=
    .arrow (by simp [TypeExpr.IsArrow, intType]) trivial (.wrapped id 1)
  refine ⟨?_, ?_, ?_, ?_⟩
  · exact (neutral_text (.named listName [function] 0)).1.2 hinside
  · exact ((neutral_text (.arrow [pair] intType)).2.1 _ _ rfl id).trans (by decide)
  · exact ((neutral_text (.wrapped (.arrow [intType] (.named listName [] 1)) 1)).2.2.1 _ _ _
      rfl).trans (by decide)
  · exact (neutral_text closing).2.2.2.2.2 (.arrow _ _) hclosing

/-- The type `List<(Int) -> Int>` is no function type, but its neutral value is a lambda. -/
theorem neutral_text_argument :
    (TypeExpr.named listName [.arrow [intType] intType] 0).text = "List<(Int) -> Int>" ∧
      neutral "List<(Int) -> Int>" = "\x7b \x7d" ∧ "\x7b \x7d" = lambda 0 "" := by
  decide

end BranchCover.Value
