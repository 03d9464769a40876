import BranchCover.Proofs.Model.LineTable

/-!
# Models put together

Models are put together one behind another, and the branches of each are numbered behind those
before it. Putting together parts first gives the same model: the numbers add up, and of several
contexts of a line the last one counts, in the place of the first. An analysis of the parts is no
analysis of the whole and is left out.

* `unanalyzed`: a model without its analysis.
* `append_assoc`: three models can be put together in either order.
* `merge_append`: the model of two lists of models.
-/

namespace BranchCover.Model

variable {first second third : Model}

/-! ### Numbers of branches -/

@[simp] theorem shiftBranch_zero (branch : Branch) : shiftBranch 0 branch = branch := by
  cases branch
  simp [shiftBranch]

theorem shiftBranch_shiftBranch (outer inner : ℕ) (branch : Branch) :
    shiftBranch outer (shiftBranch inner branch) = shiftBranch (outer + inner) branch := by
  have hadd : ∀ id : Int, id + inner + outer = id + (outer + inner : ℕ) := by
    intro id
    omega
  simp [shiftBranch, hadd, Function.comp_def]

/-- The branches of two models, then of a third, are numbered as those of the last two behind the
first. -/
theorem branches_append_assoc (first second third : Model) :
    ((first.append second).append third).branches =
      (first.append (second.append third)).branches := by
  simp [append, shiftBranch_shiftBranch, Function.comp_def]

/-! ### Two models -/

/-- A model without its analysis. -/
def unanalyzed (model : Model) : Model := { model with dataflow := none }

theorem unanalyzed_eq_self (h : first.dataflow = none) : first.unanalyzed = first := by
  cases first
  cases h
  rfl

/-- The analysis of the second model counts for nothing. -/
theorem append_unanalyzed (first second : Model) :
    first.append second.unanalyzed = first.append second := rfl

@[simp] theorem append_empty (model : Model) : model.append {} = model := by
  cases model
  simp [append]

theorem empty_append {model : Model} (h : model.lineContexts.places.Nodup) :
    append {} model = model.unanalyzed := by
  have hid : shiftBranch 0 = id := funext shiftBranch_zero
  simp [append, unanalyzed, hid, LineTable.nil_update h]

/-- Three models can be put together in either order if the one in the middle repeats no line. -/
theorem append_assoc (h : second.lineContexts.places.Nodup) :
    (first.append second).append third = first.append (second.append third) := by
  have hbranches := branches_append_assoc first second third
  have hlines : (first.lineContexts.update second.lineContexts).update third.lineContexts =
      first.lineContexts.update (second.lineContexts.update third.lineContexts) :=
    (LineTable.update_update h).symm
  simp only [append, List.append_assoc] at hbranches ⊢
  simp only [hbranches, hlines]

/-! ### Lists of models -/

theorem merge_concat (models : List Model) (model : Model) :
    merge (models ++ [model]) = (merge models).append model := by
  rw [merge, List.foldl_concat, merge]

/-- A merged model is not analyzed, even if the given ones are. -/
theorem dataflow_merge (models : List Model) : (merge models).dataflow = none := by
  induction models using List.reverseRecOn with
  | nil => rfl
  | append_singleton models model ih =>
    rw [merge_concat]
    exact ih

/-- A merged model repeats no line, whatever the given ones do. -/
theorem nodup_merge (models : List Model) : (merge models).lineContexts.places.Nodup := by
  induction models using List.reverseRecOn with
  | nil => exact List.nodup_nil
  | append_singleton models model ih =>
    rw [merge_concat]
    exact LineTable.nodup_update ih

/-- The model of two lists of models is that of the first behind which that of the second is put. -/
theorem merge_append (xs ys : List Model) : merge (xs ++ ys) = (merge xs).append (merge ys) := by
  induction ys using List.reverseRecOn with
  | nil =>
    rw [List.append_nil]
    exact (append_empty _).symm
  | append_singleton ys model ih =>
    rw [← List.append_assoc, merge_concat, ih, merge_concat, append_assoc (nodup_merge ys)]

theorem merge_pair (xs ys : List Model) :
    merge [merge xs, merge ys] = (merge xs).append (merge ys) := by
  show (append {} (merge xs)).append (merge ys) = _
  rw [empty_append (nodup_merge xs), unanalyzed_eq_self (dataflow_merge xs)]

/-- Empty models change nothing, wherever they stand. -/
theorem merge_filter_nonempty (models : List Model) :
    merge (models.filter (· ≠ {})) = merge models := by
  have hfold : ∀ start : Model,
      (models.filter (· ≠ {})).foldl append start = models.foldl append start := by
    induction models with
    | nil => intro start; rfl
    | cons model models ih =>
      intro start
      by_cases hempty : model = {}
      · rw [List.filter_cons_of_neg (by simp [hempty]), List.foldl_cons, hempty, append_empty]
        exact ih start
      · rw [List.filter_cons_of_pos (by simp [hempty]), List.foldl_cons, List.foldl_cons]
        exact ih (start.append model)
  exact hfold {}

/-- The analyses of models change nothing. -/
theorem merge_map_unanalyzed (models : List Model) :
    merge (models.map unanalyzed) = merge models := by
  simp only [merge, List.foldl_map, append_unanalyzed]

theorem merge_singleton {model : Model} (h : model.lineContexts.places.Nodup) :
    merge [model] = model.unanalyzed := empty_append h

/-- **Merging takes lists, put one behind another, to models, put one behind another.** The model of
two lists is that of their two models, empty models and analyses count for nothing, and a single
model keeps all but its analysis. A line that both lists know stays where the first has it, with
what the second says of it. -/
theorem merge_homomorphism (xs ys : List Model) :
    merge (xs ++ ys) = merge [merge xs, merge ys] ∧
      merge (xs ++ ys) = (merge xs).append (merge ys) ∧
      merge (xs.filter (· ≠ {})) = merge xs ∧
      merge (xs.map unanalyzed) = merge xs ∧
      (∀ model : Model, model.lineContexts.places.Nodup → merge [model] = model.unanalyzed) ∧
      (merge (xs ++ ys)).lineContexts.places =
        (merge xs).lineContexts.places ++
          (merge ys).lineContexts.places.filter (· ∉ (merge xs).lineContexts.places) ∧
      ∀ file line, (merge (xs ++ ys)).lineContext? file line =
        ((merge ys).lineContext? file line).or ((merge xs).lineContext? file line) := by
  rw [merge_pair, merge_append]
  exact ⟨rfl, rfl, merge_filter_nonempty xs, merge_map_unanalyzed xs, fun _ => merge_singleton,
    LineTable.places_update (nodup_merge ys), fun _ _ => LineTable.get?_update (nodup_merge ys)⟩

/-- A model with one `if` and some lines of one file. -/
def linesModel (lines : List (Int × String)) : Model where
  branches := [{ id := 0, kind := .ifBranch, condition := some "x", function := none,
                 file := "a.kt", line := 1, scope := Scope.global }]
  lineContexts := lines.map fun (line, code) => (("a.kt", line), { file := "a.kt", line, code })

/-- Of two models that both know line 1, and an empty one behind them, the second `if` is numbered
behind the first, and line 1 stays first with what the second model says of it. -/
theorem merge_homomorphism_repeatedLine :
    (linesModel [(1, "old"), (2, "kept")]).lineContexts.places.Nodup ∧
      merge [linesModel [(1, "old"), (2, "kept")]] = linesModel [(1, "old"), (2, "kept")] ∧
      (merge ([linesModel [(1, "old"), (2, "kept")]] ++
        [linesModel [(3, "added"), (1, "new")], {}])).branches.map
        (·.id) = [0, 1] ∧
      (merge ([linesModel [(1, "old"), (2, "kept")]] ++
        [linesModel [(3, "added"), (1, "new")], {}])).lineContexts.places =
          [("a.kt", 1), ("a.kt", 2), ("a.kt", 3)] ∧
      ((merge ([linesModel [(1, "old"), (2, "kept")]] ++
        [linesModel [(3, "added"), (1, "new")], {}])).lineContext? "a.kt" 1).map (·.code) =
          some "new" := by
  obtain ⟨-, happend, -, -, hsingleton, hplaces, hlines⟩ :=
    merge_homomorphism [linesModel [(1, "old"), (2, "kept")]]
      [linesModel [(3, "added"), (1, "new")], {}]
  have hnodup : (linesModel [(1, "old"), (2, "kept")]).lineContexts.places.Nodup := by decide
  refine ⟨hnodup, hsingleton _ hnodup, ?_, ?_, ?_⟩
  · rw [happend]
    decide
  · rw [hplaces]
    decide
  · rw [hlines]
    decide

end BranchCover.Model
