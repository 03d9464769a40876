import BranchCover.Proofs.Literal.Quoted
import BranchCover.Proofs.Oracle.Simulation

/-!
# Messages of assertions

The message of an assertion is a string literal of its statement, where every line feed is escaped,
or a comment, where nothing is. Some messages of comments hold the condition of a branch as it is
written.

* `OneLine`: a text without a line feed.
* `Assertion.render_quoted`: a message as a string literal.
* `Assertion.oneLine_render_iff`: a message as a comment.
* `Oracle.commentsOneLine_forBranch`, `Oracle.commentsOneLine_forWhenEntry`: the comments of the
  assertions of a branch.
-/

namespace BranchCover

/-- A text without a line feed. -/
def OneLine (text : String) : Prop := '\n' ∉ text.toList

instance : DecidablePred OneLine := fun text => inferInstanceAs (Decidable ('\n' ∉ text.toList))

@[simp] theorem oneLine_append {first second : String} :
    OneLine (first ++ second) ↔ OneLine first ∧ OneLine second := by
  simp [OneLine]

namespace Literal

/-- A string literal stands on one line. -/
theorem oneLine_quote (text : String) : OneLine (quote text) := by
  have hescape : ∀ c, '\n' ∉ escape c := fun c hline => (escapedBody_escape c).2 _ hline (by decide)
  simp [OneLine, quote, quoteChars, hescape]

end Literal

namespace Assertion

/-- Whether the message of an assertion is written as a comment. -/
def isCommented (assertion : Assertion) : Bool :=
  assertion.kind == .notNull || assertion.kind == .completes

/-- An assertion that is no comment holds its message as a string literal at its end, and nowhere
else. -/
theorem render_quoted {assertion : Assertion} (h : assertion.isCommented = false) :
    ∃ code, ∀ message, message ≠ "" →
      { assertion with message }.render = [code ++ ", " ++ Literal.quote message ++ ")"] := by
  obtain ⟨kind, expected, message, subject⟩ := assertion
  cases kind with
  | notNull | completes => cases h
  | _ =>
    exact ⟨_,
      fun message hmessage => by simp only [render, if_neg hmessage, ← String.append_assoc]; rfl⟩

/-- A comment stays on its line exactly if its message does. -/
theorem oneLine_render_iff {assertion : Assertion} (h : assertion.isCommented = true) :
    (∀ line ∈ assertion.render, OneLine line) ↔ OneLine assertion.message := by
  have hcheck : OneLine "assertNotNull(result)" := by decide
  have hcheckMark : OneLine "assertNotNull(result) // " := by decide
  have hmark : OneLine "// " := by decide
  have hdefault : OneLine "// Verifies the call completes without error" := by decide
  have hempty : OneLine "" := by decide
  obtain ⟨kind, expected, message, subject⟩ := assertion
  by_cases hmessage : message = ""
  · subst hmessage
    cases kind with
    | notNull => simp [render, hcheck, hempty]
    | completes => simp [render, hdefault, hempty]
    | _ => cases h
  · cases kind with
    | notNull => simp [render, hmessage, hcheckMark]
    | completes => simp [render, hmessage, hmark]
    | _ => cases h

/-- The comments among some assertions stay on their lines. -/
def CommentsOneLine (assertions : List Assertion) : Prop :=
  ∀ assertion ∈ assertions, assertion.isCommented = true → OneLine assertion.message

@[simp] theorem commentsOneLine_nil : CommentsOneLine [] := List.forall_mem_nil _

@[simp] theorem commentsOneLine_cons {assertion : Assertion} {rest : List Assertion} :
    CommentsOneLine (assertion :: rest) ↔
      (assertion.isCommented = true → OneLine assertion.message) ∧ CommentsOneLine rest :=
  List.forall_mem_cons

end Assertion

namespace Oracle

open Assertion

variable {function : FunctionDecl} {condition entry : String} {outcome : Bool}
  {assertions : List Assertion}

theorem oneLine_basicCheck : OneLine basicCheck.message := by decide

theorem oneLine_outcomeLabel (outcome : Bool) : OneLine (outcomeLabel outcome) := by
  cases outcome <;> decide

/-- The comment that a branch completes holds its condition. -/
theorem oneLine_completes (h : OneLine condition) :
    OneLine (completes condition outcome).message := by
  have hbefore : OneLine "Verifies the " := by decide
  have hbetween : OneLine " branch of '" := by decide
  have hbehind : OneLine "' completes without error" := by decide
  simp [completes, oneLine_outcomeLabel, hbefore, hbetween, hbehind, h]

theorem isCommented_numericCheck {shape : Option AtomShape} :
    (numericCheck function condition shape outcome).isCommented = false := by
  unfold numericCheck
  cases outcome <;> dsimp only <;> (repeat' split) <;> rfl

theorem isCommented_booleanCheck {shape : Option AtomShape} :
    (booleanCheck function shape outcome).isCommented = false := by
  unfold booleanCheck
  dsimp only
  split
  · cases outcome <;> rfl
  · rfl

theorem isCommented_containsCheck {expected what subject : String} :
    (containsCheck expected what subject outcome).isCommented = false := by
  cases outcome <;> rfl

/-- The comment on a textual result holds the condition. -/
theorem oneLine_textualCheck {shape : Option AtomShape} (h : OneLine condition)
    (hcommented : (textualCheck function condition shape outcome).isCommented = true) :
    OneLine (textualCheck function condition shape outcome).message := by
  have hvalid : OneLine ("Result should be valid for branch: " ++ condition ++ " = "
      ++ (if outcome then "True" else "False")) := by
    have hbefore : OneLine "Result should be valid for branch: " := by decide
    have hbetween : OneLine " = " := by decide
    have htruth : OneLine (if outcome then "True" else "False") := by cases outcome <;> decide
    simp [hbefore, hbetween, htruth, h]
  unfold textualCheck at hcommented ⊢
  dsimp only at hcommented ⊢
  split at hcommented
  · split_ifs at hcommented <;> cases hcommented
  · split at hcommented
    · rw [isCommented_containsCheck] at hcommented
      cases hcommented
    · split at hcommented
      · rename_i literal
        by_cases hquoted : literal.toList.head? = some '"'
        · rw [if_pos hquoted, isCommented_containsCheck] at hcommented
          cases hcommented
        · rw [if_neg hquoted]
          exact hvalid
      · exact hvalid
  · exact hvalid

theorem commentsOneLine_forAtom {shape : Option AtomShape} (h : OneLine condition) :
    CommentsOneLine (forAtom function condition shape outcome) := by
  unfold forAtom
  split
  · simp [oneLine_completes h]
  · simp [oneLine_basicCheck, isCommented_numericCheck]
  · simpa [oneLine_basicCheck] using oneLine_textualCheck h
  · simp [oneLine_basicCheck, isCommented_booleanCheck]
  · simp [oneLine_basicCheck]

theorem commentsOneLine_forCombination (h : OneLine condition) :
    CommentsOneLine (forCombination function condition outcome) := by
  unfold forCombination
  dsimp only
  split
  · simp [oneLine_completes h]
  · cases outcome <;> simp [oneLine_basicCheck, isCommented]
  · simp [oneLine_basicCheck, isCommented, stateCheck]
  · simp [oneLine_basicCheck]

theorem commentsOneLine_heuristicBranch {conditions : List Condition} (h : OneLine condition) :
    CommentsOneLine (heuristicBranch function conditions condition outcome) := by
  unfold heuristicBranch
  split
  · exact commentsOneLine_forAtom h
  · exact commentsOneLine_forCombination h

theorem commentsOneLine_simulatedOr {heuristic : List Assertion} {body : Option String}
    {bindings : Bindings}
    (hheuristic : CommentsOneLine heuristic)
    (h : simulatedOr heuristic function body bindings = .ok assertions) :
    CommentsOneLine assertions := by
  obtain ⟨value, -, rfl⟩ := map_eq_ok_iff.1 h
  cases value with
  | none => exact hheuristic
  | some value =>
    refine commentsOneLine_cons.2 ⟨fun _ => oneLine_basicCheck,
      commentsOneLine_cons.2 ⟨?_, commentsOneLine_nil⟩⟩
    rintro ⟨⟩

/-- **The comments of a test of an `if` stay on their lines if its condition does.** -/
theorem commentsOneLine_forBranch {mode : Mode} {conditions : List Condition} {bindings : Bindings}
    {body : Option String} (hcondition : OneLine condition)
    (h : forBranch mode function conditions condition outcome bindings body = .ok assertions) :
    CommentsOneLine assertions := by
  rw [forBranch_eq] at h
  split_ifs at h
  · exact commentsOneLine_simulatedOr (commentsOneLine_heuristicBranch hcondition) h
  · obtain rfl := Except.ok.inj h
    exact commentsOneLine_heuristicBranch hcondition

theorem commentsOneLine_heuristicEntry {subjectName : Option String} :
    CommentsOneLine (heuristicEntry function entry subjectName) := by
  unfold heuristicEntry arithmeticCheck
  dsimp only
  split
  · split
    · split <;> simp [oneLine_basicCheck, isCommented]
    · simp [oneLine_basicCheck]
  · split_ifs <;> simp [oneLine_basicCheck, isCommented]
  · simp [oneLine_basicCheck]

/-- **The comments of a test of a `when` entry stay on their lines if its condition does.** -/
theorem commentsOneLine_forWhenEntry {mode : Mode} {bindings : Bindings}
    {body subjectName : Option String}
    (hentry : OneLine entry)
    (h : forWhenEntry mode function entry bindings body subjectName = .ok assertions) :
    CommentsOneLine assertions := by
  have hbefore : OneLine "Verifies the '" := by decide
  have hbehind : OneLine "' branch completes without error" := by decide
  unfold forWhenEntry at h
  dsimp only at h
  split_ifs at h
  · obtain rfl := Except.ok.inj h
    simp [hbefore, hbehind, hentry]
  · exact commentsOneLine_simulatedOr commentsOneLine_heuristicEntry h
  · obtain rfl := Except.ok.inj h
    exact commentsOneLine_heuristicEntry

theorem commentsOneLine_forBasic : CommentsOneLine (forBasic function) := by
  have hcompletes : OneLine "Verifies the method executes without exceptions" := by decide
  have hresult : OneLine "Result should not be null" := by decide
  unfold forBasic
  split_ifs
  · simp [hcompletes]
  · simp [hresult]

end Oracle

end BranchCover
