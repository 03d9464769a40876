import BranchCover.Proofs.Condition.Parentheses
import BranchCover.Proofs.Value.Readable
import BranchCover.Value.Neutral

/-!
# Parentheses in values

`NestsWithin` says of a value that its parentheses belong together and nest at most so deep. Every
parenthesis counts, in literals as well. A call adds one level to those of its arguments, and no
neutral value has more than one level, as the body of a lambda stands in braces.

* `NestsWithin.append`, `NestsWithin.parenthesized`, `nestsWithin_intercalate`: how values are put
  together.
* `nestsWithin_neutral`: neutral values.
-/

namespace BranchCover.Value

open Condition (IsFlat)

variable {limit : ℕ} {value : String}

/-- Parentheses that belong together and nest at most so deep. -/
structure NestsWithin (limit : ℕ) (value : String) : Prop where
  /-- A beginning of the text closes no more parentheses than it opens, and leaves at most so many
  open. -/
  level : ∀ before, before <+: value.toList →
    before.count ')' ≤ before.count '(' ∧ before.count '(' ≤ before.count ')' + limit
  /-- The whole text leaves none open. -/
  closed : value.toList.count '(' = value.toList.count ')'

theorem nestsWithin_iff : NestsWithin limit value ↔
    (∀ before ∈ value.toList.inits,
      before.count ')' ≤ before.count '(' ∧ before.count '(' ≤ before.count ')' + limit) ∧
      value.toList.count '(' = value.toList.count ')' := by
  simp only [List.mem_inits]
  exact ⟨fun h => ⟨h.level, h.closed⟩, fun h => ⟨h.1, h.2⟩⟩

instance : Decidable (NestsWithin limit value) := decidable_of_iff _ nestsWithin_iff.symm

namespace NestsWithin

theorem mono {more : ℕ} (h : NestsWithin limit value) (hle : limit ≤ more) :
    NestsWithin more value where
  level before hbefore := ⟨(h.level before hbefore).1, (h.level before hbefore).2.trans (by omega)⟩
  closed := h.closed

theorem of_isFlat (h : IsFlat value.toList) : NestsWithin limit value where
  level before hbefore := by
    have hzero := (h.of_subset hbefore.subset).count_eq
    omega
  closed := h.count_eq.1.trans h.count_eq.2.symm

/-- A value after another one starts where no parenthesis is open. -/
theorem append {rest : String} (h : NestsWithin limit value) (hrest : NestsWithin limit rest) :
    NestsWithin limit (value ++ rest) where
  level before hbefore := by
    rw [String.toList_append] at hbefore
    rcases List.prefix_or_prefix_of_prefix hbefore
      (List.prefix_append value.toList rest.toList) with
      hshort | ⟨before, rfl⟩
    · exact h.level before hshort
    · have hlevel := hrest.level before ((List.prefix_append_right_inj _).1 hbefore)
      have hclosed := h.closed
      rw [List.count_append, List.count_append]
      omega
  closed := by
    rw [String.toList_append, List.count_append, List.count_append, h.closed, hrest.closed]

/-- Parentheses around a value add a level. -/
theorem parenthesized (h : NestsWithin limit value) : NestsWithin (limit + 1)
    ("(" ++ value ++ ")") where
  level before hbefore := by
    have htext : ("(" ++ value ++ ")").toList = '(' :: (value.toList ++ [')']) := by simp
    rw [htext] at hbefore
    rcases List.prefix_cons_iff.1 hbefore with rfl | ⟨before, rfl, hinner⟩
    · simp
    · rcases List.prefix_concat_iff.1 hinner with rfl | hshort
      · have hclosed := h.closed
        simp
        omega
      · have hlevel := h.level before hshort
        simp
        omega
  closed := by simp [h.closed]

end NestsWithin

theorem nestsWithin_ite {p : Prop} [Decidable p] {first second : String}
    (hfirst : NestsWithin limit first)
    (hsecond : NestsWithin limit second) : NestsWithin limit (if p then first else second) := by
  by_cases hp : p
  · rwa [if_pos hp]
  · rwa [if_neg hp]

/-- Values in a row with a text without parentheses between them. -/
theorem nestsWithin_intercalate {separator : String} {values : List String}
    (hseparator : IsFlat separator.toList)
    (h : ∀ value ∈ values, NestsWithin limit value) :
      NestsWithin limit (separator.intercalate values) := by
  induction values with
  | nil =>
    rw [String.intercalate_nil]
    exact .of_isFlat ⟨List.not_mem_nil, List.not_mem_nil⟩
  | cons first rest ih =>
    obtain ⟨hfirst, hrest⟩ := List.forall_mem_cons.1 h
    by_cases hnil : rest = []
    · rw [hnil, String.intercalate_singleton]
      exact hfirst
    · rw [String.intercalate_cons_of_ne_nil hnil]
      exact (hfirst.append (.of_isFlat hseparator)).append (ih hrest)

/-! ### Neutral values -/

/-- A factory that is called without arguments. -/
theorem nestsWithin_factory {table : List (String × String)} {name factory : String}
    (h : table.lookup name = some factory)
    (hall : ∀ factory ∈ table.map (·.2), NestsWithin 1 (factory ++ "()")) :
    NestsWithin 1 (factory ++ "()") := hall factory (mem_map_snd_of_lookup h)

theorem nestsWithin_plainNeutral (type : String) : NestsWithin 1 (plainNeutral type) := by
  unfold plainNeutral
  iterate 11 refine nestsWithin_ite (by decide) ?_
  split
  · rename_i factory hfactory
    exact nestsWithin_factory hfactory (by decide)
  · split
    · rename_i factory hfactory
      exact nestsWithin_factory hfactory (by decide)
    · exact nestsWithin_ite (by decide) (nestsWithin_ite (by decide) (by decide))

/-- A lambda has the parentheses of its body. -/
theorem nestsWithin_lambda {body : String} (h : NestsWithin limit body) (parameters : ℕ) :
    NestsWithin limit (lambda parameters body) := by
  have hflat : ∀ {text : String}, '(' ∉ text.toList → ')' ∉ text.toList → NestsWithin limit text :=
    fun hopen hclose => .of_isFlat ⟨hopen, hclose⟩
  cases parameters with
  | zero =>
    exact nestsWithin_ite (hflat (by decide) (by decide))
      (((hflat (by decide) (by decide)).append h).append (hflat (by decide) (by decide)))
  | succ parameters =>
    have hrest : NestsWithin limit (String.join (List.replicate parameters ", _")) := by
      refine hflat ?_ ?_ <;> simp [String.toList_join, List.mem_flatMap, List.mem_replicate]
    exact ((((hflat (by decide) (by decide)).append hrest).append
      (hflat (by decide) (by decide))).append h).append
      (hflat (by decide) (by decide))

theorem nestsWithin_neutralWithin (depth : ℕ) (type : String) :
    NestsWithin 1 (neutralWithin depth type) := by
  induction depth generalizing type with
  | zero =>
    show NestsWithin 1 mock
    decide
  | succ depth ih =>
    rw [neutralWithin]
    refine nestsWithin_ite (by decide)
      (nestsWithin_ite (nestsWithin_lambda ?_ _) (nestsWithin_plainNeutral type))
    exact nestsWithin_ite (by decide) (.append (by decide) (ih _))

/-- **Neutral values have at most one level of parentheses.** -/
theorem nestsWithin_neutral (type : String) : NestsWithin 1 (neutral type) :=
  nestsWithin_neutralWithin _ type

end BranchCover.Value
