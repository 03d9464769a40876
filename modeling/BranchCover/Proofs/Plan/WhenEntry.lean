import BranchCover.Proofs.Plan.Cases

/-!
# The plan of a `when`

A plan can be made exactly if the cases of a numeric subject can be read. It has one value for each
entry that is no `else`, and one for the `else`.

* `returns_make_iff`: the entries that have a plan.
* `values_of_make`: the values of a plan, whatever is drawn for the `else`.
* `arrange_cons`: the place of the first `else` among all entries is the one of its value among the
  values.
* `mem_arrange`, `valueOf_mem_arrange`: the values of the entries.
* `entryId_of_isElse`, `unwritten_mem_arrange`: the value for the `else`.
* `make_keeps_order`: the entries of a plan in their order.
-/

namespace BranchCover.WhenPlan

variable {entry : Branch}

theorem returns_numericCases_iff {cases : List String} :
    Returns (numericCases cases) ↔ ∀ case ∈ cases, CaseReadable case := by
  induction cases with
  | nil => exact iff_of_true (returns_ok _) (by simp)
  | cons case rest ih =>
    rw [numericCases, List.forall_mem_cons, ← ih, ← returns_numericCase_iff]
    exact returns_bind_bind_iff fun _ _ => returns_ok _

theorem returns_elseValue_iff {used : List String} {type : String} {retryLimit : ℕ} :
    Returns (elseValue used type retryLimit) ↔
      (TypeText.base type ∈ TypeText.numericNames → ∀ case ∈ used, CaseReadable case) := by
  unfold elseValue
  by_cases hnumeric : TypeText.base type ∈ TypeText.numericNames
  · simp only [hnumeric, if_true, returns_map_iff, returns_numericCases_iff, forall_const]
  · rw [if_neg hnumeric]
    exact iff_of_true (returns_ok _) fun h => absurd h hnumeric

theorem returns_make_iff {entries : List Branch} {type : String} {retryLimit : ℕ} :
    Returns (make entries type retryLimit) ↔
      (TypeText.base type ∈ TypeText.numericNames → ∀ entry ∈ entries, entry.isCatchAll = false →
        ∀ case ∈ casesOf entry, CaseReadable case) := by
  refine (returns_bind_of_returns fun _ => returns_ok _).trans (returns_elseValue_iff.trans ?_)
  refine imp_congr_right fun _ => ?_
  constructor
  · intro hused entry hentry hcatch case hcase
    refine hused case (List.mem_flatMap.2 ⟨entry, ?_, hcase⟩)
    exact List.mem_filter.2 ⟨hentry, by simpa using hcatch⟩
  · intro hcases case hcase
    obtain ⟨entry, hentry, hcase⟩ := List.mem_flatMap.1 hcase
    obtain ⟨hmem, hcatch⟩ := List.mem_filter.1 hentry
    exact hcases entry hmem (by simpa using hcatch) case hcase

/-- A plan arranges the entries around the value for the `else`, whatever is drawn for it. -/
theorem values_of_make {entries : List Branch} {type : String} {retryLimit : ℕ}
    {draw : Random WhenPlan} (h : make entries type retryLimit = .ok draw) (rng : Twister) :
    ∃ literal, (draw rng).1.values = arrange literal entries := by
  obtain ⟨value, -, h⟩ := bind_eq_ok_iff.1 h
  obtain rfl := Except.ok.inj h
  exact ⟨(value rng).1.1, rfl⟩

theorem hasCatchAll_of_make {entries : List Branch} {type : String} {retryLimit : ℕ}
    {draw : Random WhenPlan} (h : make entries type retryLimit = .ok draw) (rng : Twister) :
    (draw rng).1.hasCatchAll = entries.any (·.isCatchAll) := by
  obtain ⟨value, -, h⟩ := bind_eq_ok_iff.1 h
  obtain rfl := Except.ok.inj h
  rfl

/-- No entry other than an `else` counts for the place of the first `else`. -/
theorem arrange_cons (literal : Option String) (entry : Branch) (rest : List Branch) :
    arrange literal (entry :: rest) =
      if entry.isCatchAll then
        { entryId := some entry.id, label := "else", value := literal, isElse := true } ::
          (rest.filter (!·.isCatchAll)).map valueOf
      else valueOf entry :: arrange literal rest := by
  by_cases hcatch : entry.isCatchAll = true
  · simp [arrange, hcatch]
  · have hnot : entry.isCatchAll = false := by simpa using hcatch
    cases hfirst : rest.find? (·.isCatchAll) with
    | none => simp [arrange, hnot, hfirst]
    | some catchAll =>
      -- the first `else` is another entry, so that its place is one higher, as is that of its value
      have hne : entry ≠ catchAll := by
        rintro rfl
        exact hcatch (List.find?_some hfirst)
      simp [arrange, hnot, hfirst, List.idxOf_cons_ne rest hne, Nat.succ_min_succ]

theorem mem_arrange {literal : Option String} {entries : List Branch} {value : EntryValue}
    (h : value ∈ arrange literal entries) :
    (value.isElse = true ∧ value.label = "else") ∨
      ∃ entry ∈ entries, entry.isCatchAll = false ∧ value = valueOf entry := by
  induction entries with
  | nil =>
    obtain rfl := List.mem_singleton.1 h
    exact Or.inl ⟨rfl, rfl⟩
  | cons entry rest ih =>
    rw [arrange_cons] at h
    split_ifs at h with hcatch
    · rcases List.mem_cons.1 h with rfl | h
      · exact Or.inl ⟨rfl, rfl⟩
      · obtain ⟨other, hother, rfl⟩ := List.mem_map.1 h
        obtain ⟨hmem, hnot⟩ := List.mem_filter.1 hother
        exact Or.inr ⟨other, List.mem_cons_of_mem _ hmem, by simpa using hnot, rfl⟩
    · rcases List.mem_cons.1 h with rfl | h
      · exact Or.inr ⟨entry, List.mem_cons_self, by simpa using hcatch, rfl⟩
      · rcases ih h with helse | ⟨other, hmem, hnot, rfl⟩
        · exact Or.inl helse
        · exact Or.inr ⟨other, List.mem_cons_of_mem _ hmem, hnot, rfl⟩

theorem valueOf_mem_arrange {literal : Option String} {entries : List Branch}
    (hentry : entry ∈ entries) (hcatch : entry.isCatchAll = false) :
    valueOf entry ∈ arrange literal entries := by
  induction entries with
  | nil => cases hentry
  | cons first rest ih =>
    rw [arrange_cons]
    split_ifs with hfirst
    · rcases List.mem_cons.1 hentry with rfl | hentry
      · rw [hcatch] at hfirst
        cases hfirst
      · refine List.mem_cons_of_mem _ (List.mem_map_of_mem ?_)
        exact List.mem_filter.2 ⟨hentry, by simpa using hcatch⟩
    · rcases List.mem_cons.1 hentry with rfl | hentry
      · exact List.mem_cons_self
      · exact List.mem_cons_of_mem _ (ih hentry)

/-- The value for the `else` is that of an entry, or of none where no entry is an `else`. -/
theorem entryId_of_isElse {literal : Option String} {entries : List Branch} {value : EntryValue}
    (h : value ∈ arrange literal entries) (helse : value.isElse = true) :
    (∀ entry ∈ entries, entry.isCatchAll = false) ∨ ∃ entry ∈ entries,
      value.entryId = some entry.id := by
  induction entries with
  | nil => exact Or.inl (by simp)
  | cons entry rest ih =>
    rw [arrange_cons] at h
    split_ifs at h with hcatch
    · rcases List.mem_cons.1 h with rfl | h
      · exact Or.inr ⟨entry, List.mem_cons_self, rfl⟩
      · obtain ⟨other, -, rfl⟩ := List.mem_map.1 h
        cases helse
    · rcases List.mem_cons.1 h with rfl | h
      · cases helse
      · rcases ih h with hnone | ⟨other, hother, hid⟩
        · exact Or.inl (List.forall_mem_cons.2 ⟨by simpa using hcatch, hnone⟩)
        · exact Or.inr ⟨other, List.mem_cons_of_mem _ hother, hid⟩

/-- Where no entry is an `else`, the value for it is that of no entry. -/
theorem unwritten_mem_arrange {literal : Option String} {entries : List Branch}
    (h : ∀ entry ∈ entries, entry.isCatchAll = false) :
    { entryId := none, label := "else", value := literal, isElse := true } ∈
      arrange literal entries := by
  induction entries with
  | nil => exact List.mem_singleton_self _
  | cons entry rest ih =>
    obtain ⟨hentry, hrest⟩ := List.forall_mem_cons.1 h
    rw [arrange_cons, if_neg (by simp [hentry])]
    exact List.mem_cons_of_mem _ (ih hrest)

/-! ### The order of a plan -/

/-- Entries without the `else` entries behind the first one. -/
def withOneElse : List Branch → List Branch
  | [] => []
  | entry :: rest =>
    if entry.isCatchAll then entry :: rest.filter (!·.isCatchAll) else entry :: withOneElse rest

theorem isElse_of_mem_map_valueOf {entries : List Branch} {value : EntryValue}
    (h : value ∈ entries.map valueOf) :
    value.isElse = false := by
  obtain ⟨entry, -, rfl⟩ := List.mem_map.1 h
  rfl

theorem map_entryId_arrange (literal : Option String) (entries : List Branch) :
    (arrange literal entries).map (·.entryId) =
      (withOneElse entries).map (some ·.id) ++ if entries.any (·.isCatchAll) then []
        else [none] := by
  induction entries with
  | nil => rfl
  | cons entry rest ih =>
    rw [arrange_cons, withOneElse, List.any_cons]
    cases entry.isCatchAll with
    | true => simp [valueOf]
    | false => simp [valueOf, ih]

theorem filter_isElse_arrange (literal : Option String) (entries : List Branch) :
    (arrange literal entries).filter (·.isElse) =
      [{ entryId := (entries.find? (·.isCatchAll)).map (·.id), label := "else", value := literal,
         isElse := true }] := by
  induction entries with
  | nil => rfl
  | cons entry rest ih =>
    rw [arrange_cons, List.find?_cons]
    cases entry.isCatchAll with
    | true =>
      have hnone : ((rest.filter (!·.isCatchAll)).map valueOf).filter (·.isElse) = [] :=
        List.filter_eq_nil_iff.2 fun value hvalue => by simp [isElse_of_mem_map_valueOf hvalue]
      simp [hnone]
    | false => simpa [valueOf] using ih

theorem filter_not_isElse_arrange (literal : Option String) (entries : List Branch) :
    (arrange literal entries).filter (!·.isElse) =
      (entries.filter (!·.isCatchAll)).map valueOf := by
  induction entries with
  | nil => rfl
  | cons entry rest ih =>
    rw [arrange_cons, List.filter_cons]
    cases entry.isCatchAll with
    | true =>
      have hall : ((rest.filter (!·.isCatchAll)).map valueOf).filter (!·.isElse) =
          (rest.filter (!·.isCatchAll)).map valueOf :=
        List.filter_eq_self.2 fun value hvalue => by simp [isElse_of_mem_map_valueOf hvalue]
      simp [hall]
    | false => simpa [valueOf] using ih

/-- **A plan keeps the entries of a `when` in their order.** There is a plan exactly if the subject
is no number or the integers of the cases have no more digits than are read. Whatever is drawn for
the `else`, the values stand for the entries in their order without the `else` entries behind the
first, and one for no entry comes last if there is no `else` entry. One value is marked as that of
the `else`, and it stands for an entry exactly if the plan says that there is an `else` entry. The
others are those of the entries that are no `else`, each with the value for its cases. -/
theorem make_keeps_order (entries : List Branch) (type : String) (limit : ℤ) :
    (Returns (make entries type limit.toNat) ↔
      (TypeText.base type ∈ TypeText.numericNames → ∀ entry ∈ entries, entry.isCatchAll = false →
        ∀ case ∈ casesOf entry, CaseReadable case)) ∧
    ∀ draw, make entries type limit.toNat = .ok draw → ∀ rng,
      (draw rng).1.values.map (·.entryId) =
        (withOneElse entries).map (some ·.id) ++
          (if ∃ entry ∈ entries, entry.isCatchAll = true then [] else [none]) ∧
      (∃ value, (draw rng).1.values.filter (·.isElse) = [value] ∧
        ((draw rng).1.hasCatchAll = true ↔ value.entryId ≠ none)) ∧
      (draw rng).1.values.filter (!·.isElse) = (entries.filter (!·.isCatchAll)).map fun entry =>
        { entryId := some entry.id
          label := entry.condition.getD ""
          value := entryValue? (ArgumentList.split (entry.condition.getD "")) } := by
  refine ⟨returns_make_iff, fun draw hdraw rng => ?_⟩
  obtain ⟨literal, hvalues⟩ := values_of_make hdraw rng
  rw [hvalues, hasCatchAll_of_make hdraw rng]
  refine ⟨?_, ⟨_, filter_isElse_arrange literal entries, ?_⟩,
    filter_not_isElse_arrange literal entries⟩
  · rw [map_entryId_arrange]
    exact congrArg _ (if_congr List.any_eq_true rfl rfl)
  · rw [List.any_eq_true, Ne, Option.map_eq_none_iff, List.find?_eq_none]
    simp

/-- An entry of a `when` with a number and a condition. -/
def exampleEntry (id : Int) (condition : String) : Branch where
  id := id
  kind := .whenEntry
  condition := some condition
  function := none
  file := "F.kt"
  line := 1
  scope := Scope.global

/-- Of two equal `else` entries between others, the first keeps its place. -/
theorem make_keeps_order_repeated :
    ∃ draw, make [exampleEntry 1 "true", exampleEntry 2 "else", exampleEntry 3 "is Int, false",
      exampleEntry 2 "else"]
        "Boolean" 0 = .ok draw ∧ ∀ rng,
      (draw rng).1.values.map (·.entryId) = [some 1, some 2, some 3] ∧
        (draw rng).1.values.filter (!·.isElse) =
          [{ entryId := some 1, label := "true", value := some "true" },
            { entryId := some 3, label := "is Int, false", value := none }] := by
  obtain ⟨hreturns, hplan⟩ := make_keeps_order
    [exampleEntry 1 "true", exampleEntry 2 "else", exampleEntry 3 "is Int, false",
      exampleEntry 2 "else"] "Boolean" 0
  obtain ⟨draw, hdraw⟩ := hreturns.2 fun hnumeric => absurd hnumeric (by decide)
  refine ⟨draw, hdraw, fun rng => ?_⟩
  obtain ⟨hids, -, hothers⟩ := hplan draw hdraw rng
  rw [hids, hothers]
  decide

theorem length_le_of_returns_make {n limit : ℕ}
    (h : Returns (make [exampleEntry 1 (String.ofList (List.replicate (n + 1) '1'))] "Int" limit)) :
    n + 1 ≤ Text.maxIntegerDigits := by
  have hcatch : (exampleEntry 1 (String.ofList (List.replicate (n + 1) '1'))).isCatchAll =
      false := by
    simpa [Branch.isCatchAll, exampleEntry] using ones_ne_else n
  rw [← caseReadable_ones_iff]
  refine returns_make_iff.1 h (by decide) _ List.mem_cons_self hcatch _ ?_
  rw [casesOf_ones rfl]
  exact List.mem_singleton_self _

/-- An entry whose case has 4301 digits leaves an integral subject without a plan. -/
theorem make_longCase :
    ¬Returns (make [exampleEntry 1 (String.ofList (List.replicate 4301 '1'))] "Int" 1000) :=
  fun h =>
  absurd (length_le_of_returns_make h) (by decide)

end BranchCover.WhenPlan
