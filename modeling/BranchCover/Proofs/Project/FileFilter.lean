import BranchCover.Project.FileFilter
import BranchCover.Proofs.Project.FileTree
import BranchCover.Proofs.Text.Glob
import BranchCover.Proofs.Text.Lines
import BranchCover.Proofs.Text.Scan
import BranchCover.Proofs.Text.Sorted

/-!
# Files that are left out

A file is left out for one of the names on its path, or for a pattern of the ignore file. The names
that count wherever they stand are hidden ones, those of build outputs and of tests, and those of
build scripts.

* `Skipped`, `LeftOut`: the names and the paths that are left out.
* `namesOf`: the names of a path.
* `FileFilter.isExcluded_make_iff`: a filter excludes exactly the paths that are left out.
* `FileFilter.mem_select_iff`: the files that a filter selects.
* `FileFilter.select_congr`: the selection depends on the files alone that the filter lets through.
-/

namespace BranchCover

variable {names listed : List String} {pattern path : List Char}

/-- The names of build outputs and of directories of tests. -/
def skippedNames : List String :=
  ["build", "bin", "out", "target", "node_modules", "test", "tests", "androidTest"]

/-- A name is left out wherever it stands on a path: it is hidden, or it names a build output, a
directory of tests or a build script. -/
def Skipped (name : String) : Prop :=
  ".".toList <+: name.toList ∨ name ∈ skippedNames ∨ ".gradle.kts".toList <:+ name.toList

instance : DecidablePred Skipped := fun _ => inferInstanceAs (Decidable (_ ∨ _ ∨ _))

/-- Names lead to something that is left out: one of them is skipped, or the ignore file has a
pattern for them. -/
def LeftOut (listed names : List String) : Prop :=
  (∃ name ∈ names, Skipped name) ∨ isExcluded listed ("/".intercalate names) = true

instance : Decidable (LeftOut listed names) := inferInstanceAs (Decidable (_ ∨ _))

/-! ### Patterns -/

/-- The names of a path, as its text has them between slashes. -/
def namesOf (path : String) : List String :=
  (Text.splitAtChars (· == '/') path.toList).map String.ofList

/-- The names of a path are found again in its text. -/
theorem namesOf_intercalate (hne : names ≠ []) (hnames : ∀ name ∈ names, '/' ∉ name.toList) :
    namesOf ("/".intercalate names) = names := by
  have hsplit : Text.splitAtChars (· == '/') ("/".intercalate names).toList =
      names.map String.toList := by
    rw [String.toList_intercalate]
    refine (Text.splitAtChars_intercalate rfl (by simpa using hne)).trans ?_
    rw [List.flatMap_map, List.map_eq_flatMap]
    exact List.flatMap_congr fun name hname =>
      Text.splitAtChars_eq_singleton (Text.beq_eq_false_of_notMem (hnames name hname))
  rw [namesOf, hsplit, List.map_map]
  simp [Function.comp_def]

/-- A pattern without a slash is matched against each name. -/
theorem excludes_of_notMem (h : '/' ∉ pattern) :
    excludes pattern path = (Text.splitAtChars (· == '/') path).any fun part =>
      globMatch part pattern := by
  have hends : Text.endsWith pattern ['/'] = false := by
    rw [← Bool.not_eq_true, Text.endsWith_iff]
    exact fun hsuffix => h (hsuffix.subset (List.mem_singleton_self _))
  simp [excludes, hends, h]

theorem isExcluded_iff_of_notMem {patterns : List String}
    (hpatterns : ∀ pattern ∈ patterns, '/' ∉ pattern.toList)
    (path : String) :
    isExcluded patterns path = true ↔
      ∃ name ∈ namesOf path, ∃ pattern ∈ patterns, globMatch name.toList pattern.toList = true := by
  rw [isExcluded, List.any_eq_true]
  constructor
  · rintro ⟨pattern, hpattern, hexcludes⟩
    rw [excludes_of_notMem (hpatterns pattern hpattern), List.any_eq_true] at hexcludes
    obtain ⟨part, hpart, hmatch⟩ := hexcludes
    exact ⟨_, List.mem_map_of_mem hpart, pattern, hpattern, by rwa [String.toList_ofList]⟩
  · rintro ⟨name, hname, pattern, hpattern, hmatch⟩
    obtain ⟨part, hpart, rfl⟩ := List.mem_map.1 hname
    refine ⟨pattern, hpattern, ?_⟩
    rw [excludes_of_notMem (hpatterns pattern hpattern), List.any_eq_true]
    exact ⟨part, hpart, by rwa [String.toList_ofList] at hmatch⟩

theorem isExcluded_append (first second : List String) (path : String) :
    isExcluded (first ++ second) path = (isExcluded first path || isExcluded second path) :=
  List.any_append

namespace FileFilter

variable {filter : FileFilter} {tree tree' : FileTree} {project : Path} {bytes : List UInt8}

/-- The standard patterns match the skipped names. -/
theorem exists_globMatch_iff (name : String) :
    (∃ pattern ∈ standardPatterns, globMatch name.toList pattern.toList = true) ↔ Skipped name := by
  have hplain : ∀ word ∈ skippedNames, Glob.Plain word.toList := by decide
  have hwords : (∃ word ∈ skippedNames, globMatch name.toList word.toList = true) ↔
      name ∈ skippedNames := by
    constructor
    · rintro ⟨word, hword, hmatch⟩
      rwa [String.toList_inj.1 ((globMatch_plain_iff (hplain word hword)).1 hmatch)]
    · exact fun h => ⟨name, h, (globMatch_plain_iff (hplain name h)).2 rfl⟩
  have hhidden : globMatch name.toList ".*".toList = true ↔ ".".toList <+: name.toList :=
    globMatch_plain_star_iff (show Glob.Plain ".".toList by decide)
  have hscript : globMatch name.toList "*.gradle.kts".toList = true ↔
      ".gradle.kts".toList <:+ name.toList :=
    globMatch_star_plain_iff (show Glob.Plain ".gradle.kts".toList by decide)
  show (∃ pattern ∈ ".*" :: (skippedNames ++ ["*.gradle.kts"]), _) ↔ _
  rw [Skipped, ← hhidden, ← hscript, ← hwords, List.exists_mem_cons_iff]
  simp only [List.mem_append, List.mem_singleton, or_and_right, exists_or, exists_eq_left]

/-- The standard patterns exclude the paths on which a skipped name stands. -/
theorem isExcluded_standardPatterns_iff (path : String) :
    isExcluded standardPatterns path = true ↔ ∃ name ∈ namesOf path, Skipped name := by
  rw [isExcluded_iff_of_notMem (by decide)]
  simp only [exists_globMatch_iff]

/-- A filter excludes the paths that are left out. -/
theorem isExcluded_make_iff (options : Options) (listed : List String) (hne : names ≠ [])
    (hnames : ∀ name ∈ names, '/' ∉ name.toList) :
    isExcluded (make options listed).patterns ("/".intercalate names) = true ↔
      LeftOut (options.extraPatterns ++ listed) names := by
  rw [make, List.append_assoc, isExcluded_append, Bool.or_eq_true, isExcluded_standardPatterns_iff,
    namesOf_intercalate hne hnames]
  rfl

/-! ### Selection -/

theorem admits_iff (hne : names ≠ []) :
    filter.admits names bytes = true ↔
    filter.extensions.contains (Path.suffix { root := "", names }) = true ∧
      isExcluded filter.patterns ("/".intercalate names) = false ∧
      (bytes.length : Int) ≤ filter.maxBytes ∧
        isBinary bytes = false := by
  have htext : Path.text { root := "", names } = "/".intercalate names := by simp [Path.text, hne]
  simp [admits, htext, and_assoc]

theorem mem_select_iff {text : String} : text ∈ filter.select tree project ↔
    ∃ names bytes, (names, bytes) ∈ tree.filesBelow project ∧ filter.admits names bytes = true ∧
      "/".intercalate names = text := by
  simp [select, and_assoc]

/-- The selection depends on the files alone that the filter lets through. -/
theorem select_congr (h : ∀ names bytes, filter.admits names bytes = true →
    ((names, bytes) ∈ tree'.filesBelow project ↔ (names, bytes) ∈ tree.filesBelow project)) :
    filter.select tree' project = filter.select tree project := by
  refine Text.eq_of_pairwise_lt (Text.pairwise_sortedSet _) (Text.pairwise_sortedSet _) fun text =>
    ?_
  show text ∈ filter.select tree' project ↔ text ∈ filter.select tree project
  rw [mem_select_iff, mem_select_iff]
  exact exists₂_congr fun names bytes => and_congr_left fun hadmits => h names bytes hadmits.1

end FileFilter

end BranchCover
