import BranchCover.Proofs.Synthesis.Run

/-!
# Answers of the exact oracle

For some tests the exact oracle is asked for the value of a body, and its answer replaces their
assertions. It draws nothing, so two computations that differ in the oracle alone go side by side:
what one of them makes, the other makes with the answers.

* `answer`: a test with the answer of the exact oracle.
* `Asks`: what the exact oracle is asked for a test.
* `Follows`: a computation with the exact oracle gives the answers for the tests that it gives
  without.
* `Follows.append`, `follows_runAll`: one computation after another.
-/

namespace BranchCover.Synthesis

/-! ### Questions to the exact oracle -/

/-- What the exact oracle is asked for: the value of a body of a function. -/
structure Question where
  function : FunctionDecl
  body : Option String

/-- Whether the exact oracle is not asked for a test: it only calls its function, or is for an
`else` or for a false outcome. -/
def isUnasked (test : TestCase) : Bool :=
  match test.kind with
  | .basic | .whenElse => true
  | .branch => test.notes.any fun note =>
      Text.endsWith note.toList (Oracle.outcomeLabel false).toList
  | .whenEntry => false

/-- A test with the answer of the exact oracle. -/
def answer : TestCase × Option Question → Except Number.Error TestCase
  | (test, none) => .ok test
  | (test, some question) =>
    (Oracle.simulatedOr test.assertions question.function question.body test.values).map
      fun assertions =>
      { test with assertions }

/-- Tests with the answers of the exact oracle. -/
def answers (tests : List TestCase) (questions : List (Option Question)) :
    Except Number.Error (List TestCase) :=
  (tests.zip questions).mapM answer

theorem answers_cons (test : TestCase) (question : Option Question) (tests : List TestCase)
    (questions : List (Option Question)) :
    answers (test :: tests) (question :: questions) =
      answer (test, question) >>= fun first => answers tests questions >>= fun others =>
        .ok (first :: others) := by
  unfold answers
  rw [List.zip_cons_cons, List.mapM_cons]
  rfl

theorem answers_append {tests others : List TestCase} {questions more : List (Option Question)}
    (h : tests.length = questions.length) :
    answers (tests ++ others) (questions ++ more) =
      answers tests questions >>= fun first => answers others more >>= fun second =>
        .ok (first ++ second) := by
  unfold answers
  rw [List.zip_append h, List.mapM_append]
  rfl

/-- Tests for which nothing is asked stay as they are. -/
theorem answers_none (tests : List TestCase) :
    answers tests (tests.map fun _ => none) = .ok tests := by
  induction tests with
  | nil => rfl
  | cons test tests ih =>
    rw [List.map_cons, answers_cons, ih]
    rfl

/-- What the exact oracle is asked for a test: nothing, or the value of the body of the branch or
the entry that the test is for. -/
inductive Asks (model : Model) (test : TestCase) : Option Question → Prop
  | unasked : isUnasked test = true → Asks model test none
  | ofIf {function : FunctionDecl} {branch : Branch} : function ∈ model.functions →
      branch ∈ model.branchesFor function → branch.kind = .ifBranch → test.kind = .branch →
      test.notes = [outcomeNote branch true] → Asks model test (some ⟨function, branch.body⟩)
  | ofEntry {function : FunctionDecl} {branch entry other : Branch} {unnamed : String} :
      function ∈ model.functions → branch ∈ model.branchesFor function → branch.kind = .when →
      entry ∈ model.entriesFor branch → entry.isCatchAll = false → other ∈ model.entriesFor branch →
      other.id = entry.id → test.kind = .whenEntry →
      test.notes = [entryNote (entry.condition.getD unnamed)] →
      Asks model test (some ⟨function, other.body⟩)

variable {model : Model} {test : TestCase} {question : Option Question}

/-- The note of a test tells the outcome of its condition. -/
theorem endsWith_outcomeNote (branch : Branch) (outcome : Bool) :
    Text.endsWith (outcomeNote branch outcome).toList (Oracle.outcomeLabel false).toList =
      !outcome := by
  unfold outcomeNote
  generalize "Testing branch coverage for condition: '" ++ branch.condition.getD "" ++ "' is " =
    front
  have htrue : "TRUE".toList = ['T', 'R', 'U', 'E'] := rfl
  have hfalse : "FALSE".toList = ['F', 'A', 'L', 'S', 'E'] := rfl
  cases outcome
  · show Text.endsWith (front ++ "FALSE").toList "FALSE".toList = true
    rw [String.toList_append, hfalse]
    simp [Text.endsWith, Text.startsWith, Text.dropHead?]
  · show Text.endsWith (front ++ "TRUE").toList "FALSE".toList = false
    rw [String.toList_append, htrue, hfalse]
    simp [Text.endsWith, Text.startsWith, Text.dropHead?]

/-- The exact oracle is asked for the tests that it is not kept from. -/
theorem Asks.isUnasked_iff (h : Asks model test question) : isUnasked test = true ↔
    question = none := by
  cases h with
  | unasked h => simp [h]
  | ofIf _ _ _ hkind hnotes =>
    refine iff_of_false ?_ (by simp)
    simp only [isUnasked, hkind, hnotes, List.any_cons, List.any_nil, endsWith_outcomeNote]
    simp
  | ofEntry _ _ _ _ _ _ _ hkind => simp [isUnasked, hkind]

/-! ### Computations with both oracles -/

/-- A test with the exact oracle is the answer for the test without. -/
structure AnswersTest (model : Model) (heuristic exact : Except Number.Error TestCase) : Prop where
  returns : Returns exact → Returns heuristic
  answered : ∀ test, heuristic = .ok test → ∃ question, Asks model test question ∧
      exact = answer (test, question)

/-- Tests with the exact oracle are the answers for the tests without. -/
structure AnswersTests (model : Model) (heuristic exact : Except Number.Error (List TestCase)) :
    Prop where
  returns : Returns exact → Returns heuristic
  answered : ∀ tests, heuristic = .ok tests →
    ∃ questions, List.Forall₂ (Asks model) tests questions ∧ exact = answers tests questions

/-- A computation with the exact oracle gives the answers for the tests that it gives without, draws
the same numbers and gives the same warnings. -/
structure Follows (model : Model) (heuristic exact : SynthesisM SynthesisResult) : Prop where
  returns : ∀ rng, Returns (exact rng) → Returns (heuristic rng)
  answered : ∀ rng result rng', heuristic rng = .ok (result, rng') →
    ∃ questions, List.Forall₂ (Asks model) result.tests questions ∧
      exact rng = (answers result.tests questions).map fun tests => ({ result with tests }, rng')

theorem answersTests_nil : AnswersTests model (.ok []) (.ok []) where
  returns := id
  answered tests h := by
    obtain rfl := Except.ok.inj h
    exact ⟨[], .nil, rfl⟩

theorem AnswersTest.cons {first first' : Except Number.Error TestCase}
    {rest rest' : Except Number.Error (List TestCase)}
    (hfirst : AnswersTest model first first') (hrest : AnswersTests model rest rest') :
    AnswersTests model (first >>= fun test => rest >>= fun tests => .ok (test :: tests))
      (first' >>= fun test => rest' >>= fun tests => .ok (test :: tests)) where
  returns h := by
    obtain ⟨hreturns, hreturns'⟩ := (returns_bind_bind_iff fun _ _ => returns_ok _).1 h
    exact (returns_bind_bind_iff fun _ _ => returns_ok _).2 ⟨hfirst.returns hreturns,
      hrest.returns hreturns'⟩
  answered tests h := by
    obtain ⟨test, htest, h⟩ := bind_eq_ok_iff.1 h
    obtain ⟨others, hothers, h⟩ := bind_eq_ok_iff.1 h
    obtain rfl := Except.ok.inj h
    obtain ⟨question, hasks, hexact⟩ := hfirst.answered test htest
    obtain ⟨questions, hall, hexact'⟩ := hrest.answered others hothers
    exact ⟨question :: questions, .cons hasks hall, by rw [answers_cons, hexact, hexact']⟩

theorem answersTests_mapM {α : Type} {f g : α → Except Number.Error TestCase} {l : List α}
    (h : ∀ a ∈ l, AnswersTest model (f a) (g a)) : AnswersTests model (l.mapM f) (l.mapM g) := by
  induction l with
  | nil => exact answersTests_nil
  | cons a l ih =>
    rw [List.mapM_cons, List.mapM_cons]
    exact (h a List.mem_cons_self).cons (ih fun other hother =>
      h other (List.mem_cons_of_mem a hother))

/-- The tests of a result. -/
theorem AnswersTests.follows {heuristic exact : Except Number.Error (List TestCase)}
    (h : AnswersTests model heuristic exact) (warnings : List Warning) :
    Follows model (checking heuristic >>= fun tests => pure { tests, warnings })
      (checking exact >>= fun tests => pure { tests, warnings }) where
  returns rng hreturns := by
    rw [checking_bind] at hreturns ⊢
    have hexact := (returns_bind_of_returns fun _ => returns_ok _).1 hreturns
    exact (returns_bind_of_returns fun _ => returns_ok _).2 (h.returns hexact)
  answered rng result rng' hresult := by
    rw [checking_bind] at hresult
    obtain ⟨tests, htests, hpair⟩ := bind_eq_ok_iff.1 hresult
    obtain ⟨rfl, rfl⟩ := Prod.mk.inj (Except.ok.inj hpair)
    obtain ⟨questions, hall, hexact⟩ := h.answered tests htests
    refine ⟨questions, hall, ?_⟩
    rw [checking_bind, hexact]
    exact bind_ok_eq_map _ _

theorem AnswersTest.follows {heuristic exact : Except Number.Error TestCase}
    (h : AnswersTest model heuristic exact)
    (warnings : List Warning) :
    Follows model (checking heuristic >>= fun test => pure { tests := [test], warnings })
      (checking exact >>= fun test => pure { tests := [test], warnings }) := by
  have hlist : ∀ x : Except Number.Error TestCase,
      (checking (x >>= fun test => .ok [] >>= fun tests => .ok (test :: tests)) >>= fun tests =>
        (pure { tests, warnings } : SynthesisM SynthesisResult)) =
      checking x >>= fun test => pure { tests := [test], warnings } := by
    intro x
    funext rng
    cases x with
    | ok test => rfl
    | error e => rfl
  rw [← hlist, ← hlist]
  exact (h.cons answersTests_nil).follows warnings

theorem follows_pure {result : SynthesisResult} (h : ∀ test ∈ result.tests, isUnasked test = true) :
    Follows model (pure result) (pure result) where
  returns rng := id
  answered rng result' rng' hresult := by
    obtain ⟨rfl, rfl⟩ := Prod.mk.inj (Except.ok.inj hresult)
    refine ⟨result.tests.map fun _ => none, ?_, by rw [answers_none]; rfl⟩
    rw [List.forall₂_map_right_iff]
    exact List.forall₂_same.2 fun test htest => .unasked (h test htest)

/-- Numbers that both draw. -/
theorem follows_drawing {α : Type} {random : Random α} {f g : α → SynthesisM SynthesisResult}
    (h : ∀ rng, Follows model (f (random rng).1) (g (random rng).1)) :
    Follows model (drawing random >>= f) (drawing random >>= g) where
  returns rng := (h rng).returns (random rng).2
  answered rng := (h rng).answered (random rng).2

/-- Checks that both make. -/
theorem follows_checking {α : Type} {check : Except Number.Error α}
    {f g : α → SynthesisM SynthesisResult}
    (h : ∀ a, check = .ok a → Follows model (f a) (g a)) :
    Follows model (checking check >>= f) (checking check >>= g) := by
  cases check with
  | error e =>
    refine ⟨fun rng => id, fun rng result rng' hresult => ?_⟩
    cases hresult
  | ok a => exact h a rfl

/-- One computation after another. -/
theorem Follows.append {first first' second second' : SynthesisM SynthesisResult}
    (hfirst : Follows model first first')
    (hsecond : Follows model second second') :
    Follows model (do let a ← first; let b ← second; return a.append b)
      (do let a ← first'; let b ← second'; return a.append b) where
  returns rng h := by
    rw [bind_run] at h ⊢
    obtain ⟨⟨found', between'⟩, hfound', h⟩ := returns_bind_iff.1 h
    obtain ⟨⟨found, between⟩, hfound⟩ := hfirst.returns rng ⟨_, hfound'⟩
    -- the exact oracle draws nothing, so both go on with the same generator
    obtain ⟨questions, -, hexact⟩ := hfirst.answered rng found between hfound
    rw [hexact] at hfound'
    obtain ⟨tests, -, hpair⟩ := map_eq_ok_iff.1 hfound'
    obtain ⟨-, rfl⟩ := Prod.mk.inj hpair
    rw [bind_run] at h
    obtain ⟨others', hothers', -⟩ := returns_bind_iff.1 h
    obtain ⟨others, hothers⟩ := hsecond.returns between ⟨_, hothers'⟩
    refine returns_bind_iff.2 ⟨_, hfound, ?_⟩
    rw [bind_run]
    exact returns_bind_iff.2 ⟨_, hothers, returns_ok _⟩
  answered rng result rng' h := by
    rw [bind_run] at h
    obtain ⟨⟨found, between⟩, hfound, h⟩ := bind_eq_ok_iff.1 h
    rw [bind_run] at h
    obtain ⟨⟨others, after⟩, hothers, h⟩ := bind_eq_ok_iff.1 h
    obtain ⟨rfl, rfl⟩ := Prod.mk.inj (Except.ok.inj h)
    obtain ⟨questions, hall, hexact⟩ := hfirst.answered rng found between hfound
    obtain ⟨more, hall', hexact'⟩ := hsecond.answered between others after hothers
    refine ⟨questions ++ more, List.rel_append hall hall', ?_⟩
    rw [bind_run, hexact]
    show _ = (answers (found.tests ++ others.tests) (questions ++ more)).map _
    rw [answers_append hall.length_eq]
    cases answers found.tests questions with
    | error e => rfl
    | ok tests =>
      show (second' between >>= _) = _
      rw [hexact']
      cases answers others.tests more with
      | error e => rfl
      | ok tests' => rfl

theorem follows_runAll {α : Type} {step step' : α → SynthesisM SynthesisResult} {l : List α}
    (h : ∀ a ∈ l, Follows model (step a) (step' a)) : Follows model (runAll step l)
    (runAll step' l) := by
  induction l with
  | nil => exact follows_pure fun test htest => by cases htest
  | cons a l ih =>
    exact (h a List.mem_cons_self).append (ih fun other hother =>
      h other (List.mem_cons_of_mem a hother))

end BranchCover.Synthesis
