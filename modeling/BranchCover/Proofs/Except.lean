import Mathlib.Data.List.Forall2

/-!
# Computations that may fail

`Returns x` says that a computation in `Except` gives a value. A chain returns when each of its
links does, and a loop keeps what each of its steps keeps.

* `bind_eq_ok_iff`, `map_eq_ok_iff`: the links of a chain that returns.
* `returns_bind_iff`, `returns_bind_bind_iff`: the chains that return.
* `returns_mapM_iff`: a map over a list returns exactly when it does on every member.
* `map_flatten_mapM`: a list is mapped in pieces as it is as a whole.
* `foldlM_returns`, `foldlM_keeps`: the steps of a loop, from its start and from its end.
* `foldlM_establishes`: what a step of a loop does is still there at its end.
* `foldlM_split`: a loop as what is before a step, the step and what is behind it.
* `findM?_eq_ok_some`, `findM?_eq_ok_none`: what a search has looked at.
-/

namespace BranchCover

variable {ε α β γ : Type}

/-- A computation gives a value. -/
def Returns (x : Except ε α) : Prop := ∃ a, x = .ok a

@[simp] theorem returns_ok (a : α) : Returns (.ok a : Except ε α) := ⟨a, rfl⟩

@[simp] theorem not_returns_error (e : ε) : ¬ Returns (.error e : Except ε α) := by
  rintro ⟨a, ha⟩
  cases ha

theorem ok_bind (a : α) (f : α → Except ε β) : (.ok a >>= f) = f a := rfl

theorem bind_eq_ok_iff {x : Except ε α} {f : α → Except ε β} {b : β} :
    (x >>= f) = .ok b ↔ ∃ a, x = .ok a ∧ f a = .ok b := by
  cases x with
  | ok a =>
    constructor
    · exact fun h => ⟨a, rfl, h⟩
    · rintro ⟨_, ⟨⟩, h⟩
      exact h
  | error e =>
    constructor
    · rintro ⟨⟩
    · rintro ⟨_, ⟨⟩, _⟩

theorem map_eq_ok_iff {x : Except ε α} {f : α → β} {b : β} :
    x.map f = .ok b ↔ ∃ a, x = .ok a ∧ f a = b := by
  cases x <;> simp [Except.map]

theorem mapError_eq_ok_iff {δ : Type} {x : Except ε α} {f : ε → δ} {a : α} :
    x.mapError f = .ok a ↔ x = .ok a := by
  cases x <;> simp [Except.mapError]

theorem map_mapError {δ : Type} (x : Except ε α) (f : ε → δ) (g : α → β) :
    (x.mapError f).map g = (x.map g).mapError f := by
  cases x <;> rfl

theorem bind_ok_eq_map (x : Except ε α) (f : α → β) : (x >>= fun a => .ok (f a)) = x.map f := by
  cases x with
  | ok a => rfl
  | error e => rfl

theorem returns_bind_iff {x : Except ε α} {f : α → Except ε β} :
    Returns (x >>= f) ↔ ∃ a, x = .ok a ∧ Returns (f a) := by
  constructor
  · rintro ⟨b, hb⟩
    obtain ⟨a, ha, hf⟩ := bind_eq_ok_iff.1 hb
    exact ⟨a, ha, b, hf⟩
  · rintro ⟨a, ha, b, hf⟩
    exact ⟨b, bind_eq_ok_iff.2 ⟨a, ha, hf⟩⟩

/-- A last link that always returns does not count. -/
theorem returns_bind_of_returns {x : Except ε α} {f : α → Except ε β} (hf : ∀ a, Returns (f a)) :
    Returns (x >>= f) ↔ Returns x := by
  rw [returns_bind_iff]
  constructor
  · rintro ⟨a, ha, -⟩
    exact ⟨a, ha⟩
  · rintro ⟨a, ha⟩
    exact ⟨a, ha, hf a⟩

/-- Two links that do not depend on each other. -/
theorem returns_bind_bind_iff {x : Except ε α} {y : Except ε β} {f : α → β → Except ε γ}
    (hf : ∀ a b, Returns (f a b)) :
    Returns (x >>= fun a => y >>= f a) ↔ Returns x ∧ Returns y := by
  rw [returns_bind_iff]
  constructor
  · rintro ⟨a, ha, h⟩
    exact ⟨⟨a, ha⟩, (returns_bind_of_returns (hf a)).1 h⟩
  · rintro ⟨⟨a, ha⟩, hy⟩
    exact ⟨a, ha, (returns_bind_of_returns (hf a)).2 hy⟩

@[simp] theorem returns_map_iff {x : Except ε α} {f : α → β} : Returns (x.map f) ↔ Returns x := by
  cases x <;> simp [Except.map]

@[simp] theorem returns_mapError_iff {δ : Type} {x : Except ε α} {f : ε → δ} :
    Returns (x.mapError f) ↔ Returns x := by
  cases x <;> simp [Except.mapError]

/-! ### Loops -/

theorem mapM_eq_ok_iff {f : α → Except ε β} {l : List α} {r : List β} :
    l.mapM f = .ok r ↔ List.Forall₂ (fun a b => f a = .ok b) l r := by
  induction l generalizing r with
  | nil =>
    rw [List.mapM_nil, List.forall₂_nil_left_iff]
    exact ⟨fun h => by cases h; rfl, fun h => by rw [h]; rfl⟩
  | cons a l ih =>
    rw [List.mapM_cons, bind_eq_ok_iff, List.forall₂_cons_left_iff]
    constructor
    · rintro ⟨b, hb, hr⟩
      obtain ⟨bs, hbs, hr⟩ := bind_eq_ok_iff.1 hr
      cases hr
      exact ⟨b, bs, hb, ih.1 hbs, rfl⟩
    · rintro ⟨b, bs, hb, hbs, rfl⟩
      exact ⟨b, hb, bind_eq_ok_iff.2 ⟨bs, ih.2 hbs, rfl⟩⟩

/-- Each value of a map over a list comes from a member. -/
theorem exists_of_mem_mapM {f : α → Except ε β} {l : List α} {r : List β} (h : l.mapM f = .ok r)
    {b : β} (hb : b ∈ r) : ∃ a ∈ l, f a = .ok b := by
  have hall := mapM_eq_ok_iff.1 h
  obtain ⟨i, hi, rfl⟩ := List.getElem_of_mem hb
  have hi' : i < l.length := hall.length_eq ▸ hi
  exact ⟨l[i], List.getElem_mem hi', hall.get hi' hi⟩

/-- Each member of a list that is mapped has its value. -/
theorem exists_mem_of_mapM {f : α → Except ε β} {l : List α} {r : List β} (h : l.mapM f = .ok r)
    {a : α} (ha : a ∈ l) : ∃ b ∈ r, f a = .ok b := by
  have hall := mapM_eq_ok_iff.1 h
  obtain ⟨i, hi, rfl⟩ := List.getElem_of_mem ha
  have hi' : i < r.length := hall.length_eq ▸ hi
  exact ⟨r[i], List.getElem_mem hi', hall.get hi hi'⟩

theorem returns_mapM_iff {f : α → Except ε β} {l : List α} :
    Returns (l.mapM f) ↔ ∀ a ∈ l, Returns (f a) := by
  induction l with
  | nil => exact ⟨by simp, fun _ => ⟨[], rfl⟩⟩
  | cons a l ih =>
    rw [List.mapM_cons, List.forall_mem_cons, ← ih]
    exact returns_bind_bind_iff fun _ _ => returns_ok _

/-- Lists that are mapped one after another are mapped as one list. -/
theorem map_flatten_mapM (f : α → Except ε β) (ls : List (List α)) :
    Except.map List.flatten (ls.mapM fun l => l.mapM f) = ls.flatten.mapM f := by
  induction ls with
  | nil => rfl
  | cons l ls ih =>
    rw [List.mapM_cons, List.flatten_cons, List.mapM_append, ← ih]
    cases l.mapM f with
    | error e => rfl
    | ok r => cases ls.mapM fun l => l.mapM f <;> rfl

/-- A loop whose steps return and keep a property returns a state with the property. -/
theorem foldlM_returns {f : β → α → Except ε β} (P : β → Prop) {l : List α}
    (step : ∀ a ∈ l, ∀ b, P b → ∃ b', f b a = .ok b' ∧ P b') {b : β} (hb : P b) :
    ∃ b', l.foldlM f b = .ok b' ∧ P b' := by
  induction l generalizing b with
  | nil => exact ⟨b, rfl, hb⟩
  | cons a l ih =>
    obtain ⟨b₁, h₁, hP₁⟩ := step a (by simp) b hb
    obtain ⟨b', h', hP'⟩ := ih (fun a' ha' => step a' (by simp [ha'])) hP₁
    exact ⟨b', by rw [List.foldlM_cons]; exact bind_eq_ok_iff.2 ⟨b₁, h₁, h'⟩, hP'⟩

/-- A loop that returns keeps what its steps keep, and each of its steps returned somewhere on the
way. -/
theorem foldlM_keeps {f : β → α → Except ε β} (P : β → Prop) {l : List α}
    (step : ∀ a ∈ l, ∀ b b', P b → f b a = .ok b' → P b') {b r : β} (hb : P b)
    (h : l.foldlM f b = .ok r) : P r ∧ ∀ a ∈ l, ∃ b b', P b ∧ f b a = .ok b' := by
  induction l generalizing b with
  | nil => cases h; exact ⟨hb, by simp⟩
  | cons a l ih =>
    rw [List.foldlM_cons] at h
    obtain ⟨b₁, h₁, hr⟩ := bind_eq_ok_iff.1 h
    have hP₁ := step a (by simp) b b₁ hb h₁
    obtain ⟨hPr, hsteps⟩ := ih (fun a' ha' => step a' (by simp [ha'])) hP₁ hr
    refine ⟨hPr, fun a' ha' => ?_⟩
    rcases List.mem_cons.1 ha' with rfl | ha'
    · exact ⟨b, b₁, hb, h₁⟩
    · exact hsteps a' ha'

/-- A loop leaves behind what each of its steps does, where no other step undoes it. -/
theorem foldlM_establishes {f : β → α → Except ε β} (P : β → Prop) (Q : α → β → Prop) {l : List α}
    (step : ∀ a ∈ l, ∀ b b', P b → f b a = .ok b' → P b' ∧ Q a b')
    (keep : ∀ a ∈ l, ∀ b b', f b a = .ok b' → ∀ other, other ≠ a → Q other b → Q other b')
    {b r : β} (hb : P b) (h : l.foldlM f b = .ok r) {a : α} (ha : a ∈ l ∨ Q a b) : Q a r := by
  induction l generalizing b with
  | nil =>
    cases h
    rcases ha with ha | ha
    · cases ha
    · exact ha
  | cons first l ih =>
    rw [List.foldlM_cons] at h
    obtain ⟨b₁, h₁, hr⟩ := bind_eq_ok_iff.1 h
    obtain ⟨hP, hQ⟩ := step first (by simp) b b₁ hb h₁
    refine ih (fun a' ha' => step a' (by simp [ha'])) (fun a' ha' =>
      keep a' (by simp [ha'])) hP hr ?_
    by_cases hfirst : a = first
    · exact Or.inr (hfirst ▸ hQ)
    · rcases ha with ha | ha
      · exact Or.inl ((List.mem_cons.1 ha).resolve_left hfirst)
      · exact Or.inr (keep first (by simp) b b₁ h₁ a hfirst ha)

/-- A loop runs up to a step, takes it and goes on. -/
theorem foldlM_split {f : β → α → Except ε β} {l : List α} {b r : β}
    (h : l.foldlM f b = .ok r) {a : α}
    (ha : a ∈ l) :
    ∃ before after b₁ b₂, l = before ++ a :: after ∧ before.foldlM f b = .ok b₁ ∧ f b₁ a = .ok b₂ ∧
      after.foldlM f b₂ = .ok r := by
  obtain ⟨before, after, rfl⟩ := List.append_of_mem ha
  rw [List.foldlM_append] at h
  obtain ⟨b₁, hbefore, h⟩ := bind_eq_ok_iff.1 h
  rw [List.foldlM_cons] at h
  obtain ⟨b₂, hstep, hafter⟩ := bind_eq_ok_iff.1 h
  exact ⟨before, after, b₁, b₂, rfl, hbefore, hstep, hafter⟩

/-! ### Searches -/

theorem returns_allM {p : α → Except ε Bool} {l : List α} (h : ∀ a ∈ l, Returns (p a)) :
    Returns (l.allM p) := by
  induction l with
  | nil => exact ⟨true, rfl⟩
  | cons a l ih =>
    obtain ⟨b, hb⟩ := h a (by simp)
    refine returns_bind_iff.2 ⟨b, hb, ?_⟩
    cases b with
    | false => exact ⟨false, rfl⟩
    | true => exact ih fun a' ha' => h a' (by simp [ha'])

theorem returns_findM? {p : α → Except ε Bool} {l : List α} (h : ∀ a ∈ l, Returns (p a)) :
    Returns (l.findM? p) := by
  induction l with
  | nil => exact ⟨none, rfl⟩
  | cons a l ih =>
    obtain ⟨b, hb⟩ := h a (by simp)
    refine returns_bind_iff.2 ⟨b, hb, ?_⟩
    cases b with
    | false => exact ih fun a' ha' => h a' (by simp [ha'])
    | true => exact ⟨some a, rfl⟩

theorem allM_eq_ok_true_iff {p : α → Except ε Bool} {l : List α} :
    l.allM p = .ok true ↔ ∀ a ∈ l, p a = .ok true := by
  induction l with
  | nil => exact iff_of_true rfl (by simp)
  | cons a l ih =>
    rw [List.forall_mem_cons, ← ih]
    constructor
    · intro h
      obtain ⟨b, hb, hl⟩ := bind_eq_ok_iff.1 h
      cases b with
      | false => cases hl
      | true => exact ⟨hb, hl⟩
    · rintro ⟨hb, hl⟩
      exact bind_eq_ok_iff.2 ⟨true, hb, hl⟩

/-- A search that finds a member has passed over all members before it. -/
theorem findM?_eq_ok_some {p : α → Except ε Bool} {l : List α} {a : α}
    (h : l.findM? p = .ok (some a)) :
    ∃ before after, l = before ++ a :: after ∧ (∀ x ∈ before, p x = .ok false) ∧
      p a = .ok true := by
  induction l with
  | nil => cases h
  | cons x l ih =>
    obtain ⟨b, hb, hl⟩ := bind_eq_ok_iff.1 h
    cases b with
    | false =>
      obtain ⟨before, after, rfl, hbefore, ha⟩ := ih hl
      exact ⟨x :: before, after, rfl, List.forall_mem_cons.2 ⟨hb, hbefore⟩, ha⟩
    | true =>
      obtain rfl := Option.some.inj (Except.ok.inj hl)
      exact ⟨[], l, rfl, by simp, hb⟩

/-- A search that finds nothing has passed over all members. -/
theorem findM?_eq_ok_none {p : α → Except ε Bool} {l : List α} (h : l.findM? p = .ok none) :
    ∀ a ∈ l, p a = .ok false := by
  induction l with
  | nil => simp
  | cons x l ih =>
    obtain ⟨b, hb, hl⟩ := bind_eq_ok_iff.1 h
    cases b with
    | false => exact List.forall_mem_cons.2 ⟨hb, ih hl⟩
    | true => cases hl

theorem mem_of_findM?_eq_ok {p : α → Except ε Bool} {l : List α} {a : α}
    (h : l.findM? p = .ok (some a)) : a ∈ l := by
  obtain ⟨before, after, rfl, -⟩ := findM?_eq_ok_some h
  exact List.mem_append_right before List.mem_cons_self

end BranchCover
