import BranchCover.Proofs.Literal.Quoted
import BranchCover.Proofs.Value.Comparison

/-!
# Equality with a string literal

A parameter that is to equal a string literal is bound to the literal, and one that is to differ
from it to the literal with a word at its end. Both are string literals again, and texts tell
whether string literals are equal.

* `comparisonValue_string`: the value of an equality with a string literal.
* `compareTexts_quoted`: two string literals compared.
* `forAtom_string_truth`: the comparison takes the wanted truth.
-/

namespace BranchCover

namespace Literal

variable {text body : List Char}

/-- What is added to a string literal to make a different one. -/
def differentWord : List Char := ['D', 'i', 'f', 'f', 'e', 'r', 'e', 'n', 't']

/-- A string literal with a word at its end is a string literal. -/
theorem StringBody.different (h : StringBody body) :
    IsQuoted ('"' :: (body ++ differentWord ++ ['"'])) := by
  have hword : StringBody differentWord := by
    unfold differentWord
    repeat' first | exact .nil | refine .plain (by decide) (by decide) ?_
  exact ⟨_, h.append hword, rfl⟩

theorem IsQuoted.isString (h : IsQuoted text) : isString text = true := by
  obtain ⟨body, hbody, rfl⟩ := h
  rw [isString, stringBody?_eq_some_iff.2 ⟨hbody, Or.inl rfl⟩, Option.isSome_some]

theorem trim_quoted (body : List Char) :
    Text.trim ('"' :: (body ++ ['"'])) = '"' :: (body ++ ['"']) :=
  Text.trim_between (by decide) (by decide) body

/-- The string literal in a text is the text without blanks around it. -/
theorem exists_trim_of_isString (h : isString text = true) :
    ∃ body, StringBody body ∧ Text.trim text = '"' :: (body ++ ['"']) := by
  obtain ⟨body, hbody⟩ := Option.isSome_iff_exists.1 h
  obtain ⟨hwell, rfl | rfl⟩ := stringBody?_eq_some_iff.1 hbody
  · exact ⟨body, hwell, trim_quoted body⟩
  · refine ⟨body, hwell, ?_⟩
    have hline : ∀ c ∈ ['\n'], Text.isBlank c = true := List.forall_mem_singleton.2 rfl
    have hsplit : '"' :: (body ++ ['"', '\n']) = '"' :: (body ++ ['"']) ++ ['\n'] := by simp
    rw [hsplit, Text.trim_append_blank hline, trim_quoted]

end Literal

/-- A text that starts with a quote is no number and names no bound of a type. -/
theorem Number.ofConstant_of_quote {text : String} (h : text.toList.head? = some '"') :
    ofConstant text = .ok none := by
  have hbound : ofBound? (Text.trim text.toList) = none := by
    obtain ⟨rest, hrest⟩ := List.head?_eq_some_iff.1 (Text.head?_trim_eq h (by decide))
    have hsplit : ∀ name constant, Text.splitFirst? '.' ('"' :: rest) = some (name, constant) →
        name.head? = some '"' := by
      intro name constant hname
      rw [Text.splitFirst?, if_neg (by decide), Option.map_eq_some_iff] at hname
      obtain ⟨⟨before, after⟩, -, hpair⟩ := hname
      obtain ⟨rfl, rfl⟩ := Prod.mk.inj hpair
      rfl
    rw [hrest, ofBound?]
    split
    · rfl
    · rename_i name constant hname
      cases hbounds : TypeText.integralBounds? (String.ofList name) with
      | none => rfl
      | some bounds =>
        -- no type with bounds has a name that starts with a quote
        have hall : ∀ n ∈ ["Byte", "Short", "Int", "Long"], n.toList.head? ≠ some '"' := by decide
        have hhead := hall _ (TypeText.integralBounds?_cases hbounds).1
        rw [String.toList_ofList] at hhead
        exact absurd (hsplit name constant hname) hhead
  rw [ofConstant, parse_of_head h (by decide) (by decide) (by decide), hbound]
  rfl

namespace Value

open Literal

variable {parameter : Parameter} {subject operand value type : String} {operator : Comparator}
  {known : Bindings}
  {body : List Char}

/-- The value of an equality with a string literal, and of a difference from it. -/
theorem comparisonValue_string (hoperator : operator = .equal ∨ operator = .notEqual)
    (hbody : StringBody body)
    (hoperand : operand.toList = '"' :: (body ++ ['"'])) (desired : Bool) :
    comparisonValue type operator operand desired =
      .ok (if desired = (operator == .equal) then operand
      else String.ofList ('"' :: (body ++ differentWord ++ ['"']))) := by
  have hstring : stringBody? operand.toList = some body :=
    stringBody?_eq_some_iff.2 ⟨hbody, Or.inl hoperand⟩
  have hne : ∀ text : String, text.toList.head? ≠ some '"' → operand ≠ text := by
    rintro text htext rfl
    exact htext (by rw [hoperand]; rfl)
  have hnull := hne "null" (by decide)
  have htrue := hne "true" (by decide)
  have hfalse := hne "false" (by decide)
  have hdifferent : '"' :: body ++ "Different\"".toList =
      '"' :: (body ++ differentWord ++ ['"']) := by
    rw [List.append_assoc]
    rfl
  rcases hoperator with rfl | rfl <;> cases desired <;>
    simp only [comparisonValue, reduceCtorEq, hnull, htrue, hfalse, hstring, hdifferent, or_self,
      and_false, if_true, if_false] <;> rfl

/-- Two string literals are compared as texts. -/
theorem compareTexts_quoted (hoperator : operator = .equal ∨ operator = .notEqual)
    (hvalue : IsQuoted value.toList)
    (hoperand : IsQuoted operand.toList) :
    compareTexts operator value operand =
      .ok (some ((value == operand) == (operator == .equal))) := by
  have hnumber : ∀ text : String, IsQuoted text.toList → Number.ofConstant text = .ok none := by
    rintro text ⟨body, -, htext⟩
    exact Number.ofConstant_of_quote (by rw [htext]; rfl)
  have hsymbol : ∀ text : String, IsQuoted text.toList → isSymbol text = true :=
    fun text htext => by
    rw [isSymbol, htext.isString, Bool.or_true]
  have hcompared : compareTexts operator value operand =
      .ok (compareSymbols? operator value operand) := by
    rcases hoperator with rfl | rfl <;> simp only [compareTexts, hnumber value hvalue,
      hnumber operand hoperand] <;> rfl
  rw [hcompared, compareSymbols?, hsymbol value hvalue, hsymbol operand hoperand]
  rcases hoperator with rfl | rfl
  · simp
  · cases h : value == operand <;> simp_all [bne]

/-- **An equality with a string literal, or a difference from it, has a value that is a string
literal again, and for which it takes the wanted truth.** The literal is looked up without the line
feed that may follow it. -/
theorem forAtom_string_truth (hoperator : operator = .equal ∨ operator = .notEqual)
    (hoperand : isString operand.toList = true) (hunbound : known.get? (trimmed operand) = none)
    (desired : Bool) :
    let shape := AtomShape.comparison subject (some operator) (some operand)
    ∃ text, forAtom parameter (some shape) desired known = .ok text ∧ IsQuoted text.toList ∧
      atomHolds shape text known = .ok (some desired) := by
  intro shape
  obtain ⟨body, hbody, htrim⟩ := exists_trim_of_isString hoperand
  rw [← toList_trimmed] at htrim
  have hliteral : IsQuoted (trimmed operand).toList := ⟨body, hbody, htrim⟩
  have hother : trimmed operand ≠ String.ofList ('"' :: (body ++ differentWord ++ ['"'])) := by
    intro heq
    have hlength := congrArg List.length (String.toList_inj.2 heq)
    rw [htrim, String.toList_ofList] at hlength
    simp [differentWord] at hlength
  have htruth : ∀ text : String, IsQuoted text.toList →
      atomHolds shape text known = .ok
        (some ((text == trimmed operand) == (operator == .equal))) := by
    rintro text ⟨inner, hinner, htext⟩
    have htrimmed : trimmed text = text := by
      rw [← String.toList_inj, toList_trimmed, htext, trim_quoted]
    rw [← compareTexts_quoted hoperator ⟨inner, hinner, htext⟩ hliteral]
    simp only [shape, atomHolds, Option.getD_some, hunbound, Option.elim_none, htrimmed]
  have hvalue : forAtom parameter (some shape) desired known =
      comparisonValue parameter.typeName operator (trimmed operand) desired := by
    simp only [shape, forAtom, Option.getD_some, hunbound, Option.getD_none]
  rw [hvalue, comparisonValue_string hoperator hbody htrim]
  by_cases hsame : desired = (operator == .equal)
  · refine ⟨_, rfl, ?_, ?_⟩
    · rwa [if_pos hsame]
    · rw [if_pos hsame, htruth _ hliteral, beq_self_eq_true, hsame]
      simp
  · have hdifferent : IsQuoted (String.ofList
        ('"' :: (body ++ differentWord ++ ['"']))).toList := by
      rw [String.toList_ofList]
      exact hbody.different
    refine ⟨_, rfl, ?_, ?_⟩
    · rwa [if_neg hsame]
    · rw [if_neg hsame, htruth _ hdifferent, beq_eq_false_iff_ne.2 hother.symm]
      cases desired <;> cases h : operator == .equal <;> simp_all

/-- The word is put behind an escaped backslash, which does not take the quote with it. -/
theorem forAtom_string_truth_slash :
    (Comparator.equal = .equal ∨ Comparator.equal = .notEqual) ∧
    isString "\"a\\\\\"".toList = true ∧
      Bindings.get? [] (trimmed "\"a\\\\\"") = none ∧
      forAtom { name := "s", typeName := "String" }
        (some (.comparison "s" (some .equal) (some "\"a\\\\\""))) false []
        = .ok "\"a\\\\Different\"" ∧
      IsQuoted "\"a\\\\Different\"".toList ∧
      atomHolds (.comparison "s" (some .equal) (some "\"a\\\\\"")) "\"a\\\\Different\"" [] =
        .ok (some false) := by
  have hoperator : Comparator.equal = .equal ∨ Comparator.equal = .notEqual := Or.inl rfl
  have hstring : isString "\"a\\\\\"".toList = true := by decide
  have hunbound : Bindings.get? [] (trimmed "\"a\\\\\"") = none := rfl
  have hvalue : forAtom { name := "s", typeName := "String" }
      (some (.comparison "s" (some .equal) (some "\"a\\\\\""))) false [] =
        .ok "\"a\\\\Different\"" := by decide
  obtain ⟨text, htext, hquoted, htruth⟩ :=
    @forAtom_string_truth { name := "s", typeName := "String" } "s" "\"a\\\\\"" .equal
    [] hoperator hstring hunbound false
  obtain rfl := Except.ok.inj (hvalue.symm.trans htext)
  exact ⟨hoperator, hstring, hunbound, hvalue, hquoted, htruth⟩

end Value

end BranchCover
