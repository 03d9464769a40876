import BranchCover.Project.Ini
import BranchCover.Proofs.Except
import Mathlib.Data.List.TakeWhile

/-!
# Values that refer to others

A value of an option file may refer to other options. It can be put together if each percent sign
stands for itself or begins a reference, each reference leads to a value that can be put together,
and not too many lead from one to another.

* `Resolves`: the values that can be put together.
* `returns_expand_iff`: they are those that are.
* `returns_get?_iff`: the options whose values can be put together.
-/

namespace BranchCover.Ini

/-- The rules by which a value is put together through at most so many levels. -/
inductive Resolves (value? : String → Option (List Char)) : ℕ → List Char → Prop
  | nil {depth} : Resolves value? (depth + 1) []
  | plain {depth c rest} : c ≠ '%' → Resolves value? (depth + 1) rest →
      Resolves value? (depth + 1) (c :: rest)
  | percent {depth rest} : Resolves value? (depth + 1) rest →
      Resolves value? (depth + 1) ('%' :: '%' :: rest)
  /-- A value without percent signs is put in as it is, on whatever level. -/
  | reference {depth name value rest} :
      name ≠ [] → ')' ∉ name → value? (optionName name) = some value →
      ('%' ∈ value → Resolves value? depth value) → Resolves value? (depth + 1) rest →
      Resolves value? (depth + 1) ('%' :: '(' :: (name ++ ')' :: 's' :: rest))

variable {value? : String → Option (List Char)} {expand : List Char → Except IniError (List Char)}
  {depth : ℕ}
  {text body name value rest : List Char}

/-- A reference names what stands before the first closing bracket, which is followed by an `s`. -/
theorem reference?_eq_some_iff :
    reference? body = some name ↔ name ≠ [] ∧ ')' ∉ name ∧ ∃ rest,
      body = name ++ ')' :: 's' :: rest := by
  constructor
  · intro h
    rw [reference?] at h
    split at h
    next c known _ rest hname hrest =>
      obtain rfl := Option.some.inj h
      have hclose : ')' ∉ body.takeWhile (· != ')') :=
        fun hmem => by simpa using List.mem_takeWhile_imp hmem
      rw [hname] at hclose
      exact ⟨nofun, hclose, rest, by rw [← hname, ← hrest, List.takeWhile_append_dropWhile]⟩
    next => cases h
  · rintro ⟨hne, hclose, rest, rfl⟩
    obtain ⟨c, known, rfl⟩ := List.exists_cons_of_ne_nil hne
    have hplain : ∀ d ∈ c :: known, (d != ')') = true :=
      fun d hd => bne_iff_ne.2 fun h => hclose (h ▸ hd)
    rw [reference?, List.takeWhile_append_of_pos hplain, List.dropWhile_append_of_pos hplain]
    simp

theorem expandFrom_drop (skip : ℕ) (text : List Char) :
    expandFrom value? expand skip text = expandFrom value? expand 0 (text.drop skip) := by
  induction skip generalizing text with
  | zero => rfl
  | succ skip ih =>
    cases text with
    | nil => rfl
    | cons c rest => exact ih rest

/-! ### One step -/

theorem returns_expandFrom_plain {c : Char} (h : c ≠ '%') :
    Returns (expandFrom value? expand 0 (c :: rest)) ↔
    Returns (expandFrom value? expand 0 rest) := by
  rw [expandFrom.eq_def]
  simp only [ne_eq, h, not_false_eq_true, if_true, returns_map_iff]

theorem returns_expandFrom_percent :
    Returns (expandFrom value? expand 0 ('%' :: '%' :: rest)) ↔
    Returns (expandFrom value? expand 0 rest) := by
  rw [expandFrom, if_neg (by decide), returns_map_iff, expandFrom_drop]
  rfl

theorem returns_expandFrom_reference (hname : reference? body = some name) :
    Returns (expandFrom value? expand 0 ('%' :: '(' :: body)) ↔
      ∃ value, value? (optionName name) = some value ∧ ('%' ∈ value → Returns (expand value)) ∧
        Returns (expandFrom value? expand 0 (body.drop (name.length + 2))) := by
  rw [expandFrom, if_neg (by decide)]
  simp only [hname]
  cases value? (optionName name) with
  | none => simp
  | some value =>
    simp only [Option.some.injEq, exists_eq_left']
    rw [expandFrom_drop, List.drop_succ_cons]
    by_cases hpercent : '%' ∈ value
    · rw [if_pos (List.contains_iff_mem.2 hpercent)]
      refine (returns_bind_bind_iff fun _ _ => returns_ok _).trans (and_congr_left fun _ => ?_)
      exact ⟨fun h _ => h, fun h => h hpercent⟩
    · rw [if_neg (mt List.contains_iff_mem.1 hpercent)]
      refine (returns_bind_bind_iff fun _ _ => returns_ok _).trans (and_congr_left fun _ => ?_)
      exact iff_of_true (returns_ok value) fun h => absurd h hpercent

/-- A percent sign before anything else begins nothing. -/
theorem not_returns_expandFrom_percent (hpercent : ∀ rest, text ≠ '%' :: rest)
    (hreference : ∀ body, text = '(' :: body → reference? body = none) :
    ¬Returns (expandFrom value? expand 0 ('%' :: text)) := by
  rw [expandFrom.eq_def]
  simp only [ne_eq, not_true_eq_false, if_false]
  split
  next rest => exact absurd rfl (hpercent rest)
  next body =>
    rw [hreference body rfl]
    exact not_returns_error _
  next => exact not_returns_error _

/-! ### All steps -/

/-- One level of references, where the values that they put in can be put together on the level
below. -/
theorem Resolves.returns_expandFrom
    (hexpand : ∀ value, Resolves value? depth value → Returns (expand value))
    (h : Resolves value? (depth + 1) text) : Returns (expandFrom value? expand 0 text) := by
  generalize hlevel : depth + 1 = level at h
  induction h with
  | nil => exact returns_ok []
  | plain hc _ ih => exact (returns_expandFrom_plain hc).2 (ih hlevel)
  | percent _ ih => exact returns_expandFrom_percent.2 (ih hlevel)
  | @reference _ name value rest hne hclose hvalue hbelow _ _ ih =>
    obtain rfl := Nat.succ.inj hlevel
    have hname : reference? (name ++ ')' :: 's' :: rest) = some name :=
      reference?_eq_some_iff.2 ⟨hne, hclose, rest, rfl⟩
    refine (returns_expandFrom_reference hname).2 ⟨value, hvalue,
      fun h => hexpand value (hbelow h), ?_⟩
    rw [← List.drop_drop, List.drop_left]
    exact ih hlevel

theorem resolves_of_returns_expandFrom
    (hexpand : ∀ value, Returns (expand value) → Resolves value? depth value)
    (h : Returns (expandFrom value? expand 0 text)) : Resolves value? (depth + 1) text := by
  -- on the length of the text, as a reference takes many characters off it
  induction hlength : text.length using Nat.strong_induction_on generalizing text with
  | _ length ih =>
    subst hlength
    cases text with
    | nil => exact .nil
    | cons c rest =>
      by_cases hc : c = '%'
      · subst hc
        by_cases hpercent : ∃ more, rest = '%' :: more
        · obtain ⟨more, rfl⟩ := hpercent
          exact .percent (ih more.length (by simp only [List.length_cons]; omega)
            (returns_expandFrom_percent.1 h) rfl)
        by_cases hreference : ∃ body name, rest = '(' :: body ∧ reference? body = some name
        · obtain ⟨body, name, rfl, hname⟩ := hreference
          obtain ⟨value, hvalue, hbelow, hrest⟩ := (returns_expandFrom_reference hname).1 h
          obtain ⟨hne, hclose, more, rfl⟩ := reference?_eq_some_iff.1 hname
          rw [← List.drop_drop, List.drop_left] at hrest
          have hmore : Resolves value? (depth + 1) more := ih more.length (by simp; omega) hrest rfl
          exact .reference hne hclose hvalue (fun h => hexpand value (hbelow h)) hmore
        · refine absurd h (not_returns_expandFrom_percent (fun more hmore =>
            hpercent ⟨more, hmore⟩) ?_)
          rintro body rfl
          exact Option.eq_none_iff_forall_ne_some.2 fun name hname =>
            hreference ⟨body, name, rfl, hname⟩
      · exact .plain hc (ih rest.length (by simp) ((returns_expandFrom_plain hc).1 h) rfl)

/-- **The values that can be put together.** -/
theorem returns_expand_iff : Returns (Ini.expand value? depth text) ↔
    Resolves value? depth text := by
  induction depth generalizing text with
  | zero => exact iff_of_false (not_returns_error _) nofun
  | succ depth ih =>
    exact ⟨resolves_of_returns_expandFrom fun value => ih.1,
      Resolves.returns_expandFrom fun value => ih.2⟩

/-- An option has no value, or its value can be put together. -/
theorem returns_get?_iff (ini : Ini) (heading name : String) :
    Returns (ini.get? heading name) ↔
      (heading ∈ ini.sections → ∀ value, ini.raw? heading name = some value →
        Resolves (ini.raw? heading) maxDepth value) := by
  rw [get?]
  by_cases hsection : heading ∈ ini.sections
  · rw [if_pos (List.contains_iff_mem.2 hsection)]
    cases ini.raw? heading name with
    | none => exact iff_of_true (returns_ok none) fun _ => nofun
    | some value =>
      rw [returns_map_iff, returns_expand_iff]
      constructor
      · rintro h _ _ ⟨⟩
        exact h
      · exact fun h => h hsection value rfl
  · rw [if_neg (mt List.contains_iff_mem.1 hsection)]
    exact iff_of_true (returns_ok none) fun h => absurd h hsection

end BranchCover.Ini
