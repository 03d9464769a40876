import BranchCover.Proofs.Project.FileFilter

/-!
# What lies under an excluded path

A pattern with a slash inside leaves out the paths that it matches with everything below them; one
without a slash, and one that ends in a slash, look for a name on the path. So a path below an
excluded one is excluded, too, and further patterns exclude further paths only. A pattern that ends
in a slash is compared with single names, so it leaves out a directory that is one name, and nothing
at all if it has a slash inside.

* `LiesUnder`: a path is another one or lies below it.
* `excludes_directory_iff`, `excludes_path_iff`: the two kinds of patterns with slashes.
* `isExcluded_hereditary`: exclusion goes down, and grows with the patterns.
* `isExcluded_directory_iff`: the directories that a pattern with a slash at its end leaves out.
-/

namespace BranchCover

variable {pattern path top middle : List Char} {patterns more : List String}

/-- A path is another one or lies below it. -/
def LiesUnder (top path : List Char) : Prop := path = top ∨ ∃ below, path = top ++ '/' :: below

theorem LiesUnder.trans (hmiddle : LiesUnder top middle) (hpath : LiesUnder middle path) :
    LiesUnder top path := by
  obtain rfl | ⟨first, rfl⟩ := hmiddle
  · exact hpath
  · obtain rfl | ⟨second, rfl⟩ := hpath
    · exact Or.inr ⟨first, rfl⟩
    · exact Or.inr ⟨first ++ '/' :: second, by simp⟩

/-! ### Patterns with slashes -/

/-- A pattern that ends in a slash is matched against the names of the directories on a path. -/
theorem excludes_directory_iff (hend : ['/'] <:+ pattern) :
    excludes pattern path = true ↔ ∃ name ∈ (Text.splitAtChars (· == '/') path).dropLast,
      globMatch name (Text.dropEndWhile (· == '/') pattern) = true := by
  rw [excludes, if_pos (Text.endsWith_iff.2 hend), List.any_eq_true]

/-- A pattern with a slash inside leaves out the path that it is, the paths that it matches, and
what lies below. -/
theorem excludes_path_iff (hslash : '/' ∈ pattern) (hend : ¬['/'] <:+ pattern) :
    excludes pattern path = true ↔ ∃ top, LiesUnder top path ∧
      (top = pattern ∨ globMatch top pattern = true) := by
  have hbelow : globMatch path (pattern ++ ['/', '*']) = true ↔
      ∃ top below, path = top ++ '/' :: below ∧ globMatch top pattern = true := by
    have hslashPlain : Glob.Plain ['/'] := by decide
    rw [globMatch_append_iff (by decide)]
    constructor
    · rintro ⟨top, rest, rfl, htop, hrest⟩
      obtain ⟨below, rfl⟩ := (globMatch_plain_star_iff hslashPlain).1 hrest
      exact ⟨top, below, rfl, htop⟩
    · rintro ⟨top, below, rfl, htop⟩
      exact ⟨top, _, rfl, htop, (globMatch_plain_star_iff hslashPlain).2 (List.prefix_append ..)⟩
  have hprefix : pattern ++ ['/'] <+: path ↔ ∃ below, path = pattern ++ '/' :: below := by
    simp [List.IsPrefix, eq_comm]
  rw [excludes, if_neg (by rwa [Text.endsWith_iff]), if_pos (List.contains_iff_mem.2 hslash)]
  simp only [Bool.or_eq_true, Text.startsWith_iff, hprefix, beq_iff_eq, hbelow]
  constructor
  · rintro (((hunder | rfl) | hmatch) | ⟨top, below, hunder, hmatch⟩)
    · exact ⟨pattern, Or.inr hunder, Or.inl rfl⟩
    · exact ⟨path, Or.inl rfl, Or.inl rfl⟩
    · exact ⟨path, Or.inl rfl, Or.inr hmatch⟩
    · exact ⟨top, Or.inr ⟨below, hunder⟩, Or.inr hmatch⟩
  · rintro ⟨top, rfl | hunder, rfl | hmatch⟩
    · exact Or.inl (Or.inl (Or.inr rfl))
    · exact Or.inl (Or.inr hmatch)
    · exact Or.inl (Or.inl (Or.inl hunder))
    · obtain ⟨below, hunder⟩ := hunder
      exact Or.inr ⟨top, below, hunder, hmatch⟩

/-! ### Going down -/

/-- The names of a path are names of what lies below it, and of the directories there. -/
theorem splitAtChars_below (path below : List Char) :
    ∃ names, names ≠ [] ∧
      Text.splitAtChars (· == '/') (path ++ '/' :: below) =
        Text.splitAtChars (· == '/') path ++ names := by
  refine ⟨Text.splitAtChars (· == '/') below, ?_, Text.splitFrom_eq_append [] below rfl⟩
  have hlength := Text.length_splitFrom (· == '/') [] below
  rintro hnil
  rw [Text.splitAtChars] at hnil
  simp [hnil] at hlength

/-- What lies under an excluded path is excluded. -/
theorem excludes_of_liesUnder (hunder : LiesUnder path middle)
    (hexcludes : excludes pattern path = true) :
    excludes pattern middle = true := by
  by_cases hend : ['/'] <:+ pattern
  · rw [excludes_directory_iff hend] at hexcludes ⊢
    obtain rfl | ⟨below, rfl⟩ := hunder
    · exact hexcludes
    · obtain ⟨name, hname, hmatch⟩ := hexcludes
      obtain ⟨names, hne, hnames⟩ := splitAtChars_below path below
      rw [hnames, List.dropLast_append_of_ne_nil hne]
      exact ⟨name, List.mem_append_left _ (List.dropLast_subset _ hname), hmatch⟩
  · by_cases hslash : '/' ∈ pattern
    · rw [excludes_path_iff hslash hend] at hexcludes ⊢
      obtain ⟨top, htop, hmatch⟩ := hexcludes
      exact ⟨top, htop.trans hunder, hmatch⟩
    · rw [excludes_of_notMem hslash, List.any_eq_true] at hexcludes ⊢
      obtain ⟨name, hname, hmatch⟩ := hexcludes
      obtain rfl | ⟨below, rfl⟩ := hunder
      · exact ⟨name, hname, hmatch⟩
      · obtain ⟨names, -, hnames⟩ := splitAtChars_below path below
        exact ⟨name, hnames ▸ List.mem_append_left _ hname, hmatch⟩

theorem isExcluded_below {path : String} (h : isExcluded patterns path = true) (below : String) :
    isExcluded patterns (path ++ "/" ++ below) = true := by
  rw [isExcluded, List.any_eq_true] at h ⊢
  obtain ⟨pattern, hpattern, hexcludes⟩ := h
  exact ⟨pattern, hpattern, excludes_of_liesUnder (Or.inr ⟨below.toList, by simp⟩) hexcludes⟩

theorem isExcluded_mono {path : String} (hmore : patterns ⊆ more)
    (h : isExcluded patterns path = true) :
    isExcluded more path = true := by
  rw [isExcluded, List.any_eq_true] at h ⊢
  obtain ⟨pattern, hpattern, hexcludes⟩ := h
  exact ⟨pattern, hmore hpattern, hexcludes⟩

/-- **Exclusion goes down, and grows with the patterns.** What lies below an excluded path is
excluded, and more patterns exclude it still. A filter excludes a path exactly if a skipped name
stands on it or one of the patterns added excludes it, so a path with the name of a directory of
tests or a hidden name is excluded whatever patterns are added. -/
theorem isExcluded_hereditary (patterns : List String) (path : String) :
    (isExcluded patterns path = true → ∀ below : String,
      isExcluded patterns (path ++ "/" ++ below) = true) ∧
      (isExcluded patterns path = true → ∀ more, patterns ⊆ more → isExcluded more path = true) ∧
      ∀ (options : FileFilter.Options) (listed : List String),
        (isExcluded (FileFilter.make options listed).patterns path = true ↔
          (∃ name ∈ namesOf path, Skipped name) ∨
            isExcluded (options.extraPatterns ++ listed) path = true) ∧
        ((∃ name ∈ namesOf path, name ∈ FileFilter.testDirectories ∨ ".".toList <+: name.toList) →
          isExcluded (FileFilter.make options listed).patterns path = true) := by
  refine ⟨isExcluded_below, fun h more hmore => isExcluded_mono hmore h, fun options listed => ?_⟩
  have hmake : isExcluded (FileFilter.make options listed).patterns path = true ↔
      (∃ name ∈ namesOf path, Skipped name) ∨
        isExcluded (options.extraPatterns ++ listed) path = true := by
    rw [FileFilter.make, List.append_assoc, isExcluded_append, Bool.or_eq_true,
      FileFilter.isExcluded_standardPatterns_iff]
  refine ⟨hmake, ?_⟩
  rintro ⟨name, hname, htest | hhidden⟩
  · have htests : FileFilter.testDirectories ⊆ skippedNames := by decide
    exact hmake.2 (Or.inl ⟨name, hname, Or.inr (Or.inl (htests htest))⟩)
  · exact hmake.2 (Or.inl ⟨name, hname, Or.inl hhidden⟩)

/-- Under a directory that a path pattern with a bracket and a star matches, all is excluded. -/
theorem isExcluded_hereditary_globs :
    isExcluded ["src/[!m]*/gen"] "src/a/b/gen" = true ∧
    isExcluded ["src/[!m]*/gen"] "src/main/gen/A.kt" = false ∧
      isExcluded ["src/[!m]*/gen"] "src/a/b/gen/A.kt" = true ∧
      isExcluded ["demo/", "src/[!m]*/gen"] "src/a/b/gen" = true := by
  have hexcluded : isExcluded ["src/[!m]*/gen"] "src/a/b/gen" = true := by decide +kernel
  obtain ⟨hbelow, hmore, -⟩ := isExcluded_hereditary ["src/[!m]*/gen"] "src/a/b/gen"
  exact ⟨hexcluded, by decide +kernel, hbelow hexcluded "A.kt", hmore hexcluded _ (by simp)⟩

/-! ### Directories -/

section Directory

variable {directory : String}

/-- A path without empty names does not end in a slash. -/
theorem getLast?_ne_slash (hnames : "" ∉ namesOf directory) :
    ∀ c, directory.toList.getLast? = some c → (c == '/') = false := by
  intro c hc
  obtain ⟨front, hfront⟩ := List.getLast?_eq_some_iff.1 hc
  rw [beq_eq_false_iff_ne]
  rintro rfl
  refine hnames (List.mem_map.2 ⟨[], ?_, rfl⟩)
  rw [hfront, Text.splitAtChars, Text.splitFrom_eq_append [] [] rfl]
  exact List.mem_append_right _ (List.mem_singleton_self _)

/-- A directory with a slash behind it leaves out what has the directory as one of the names on the
way to it. -/
theorem excludes_directory_slash_iff (hnames : "" ∉ namesOf directory)
    (hplain : Glob.Plain directory.toList) :
    excludes (directory ++ "/").toList path = true ↔
      directory.toList ∈ (Text.splitAtChars (· == '/') path).dropLast := by
  have hpattern : (directory ++ "/").toList = directory.toList ++ ['/'] := by simp
  rw [hpattern, excludes_directory_iff (List.suffix_append _ _),
    Text.dropEndWhile_append_eq (by simp) (getLast?_ne_slash hnames)]
  simp only [globMatch_plain_iff hplain, exists_eq_right]

/-- A directory with a slash inside and one behind it leaves out nothing. -/
theorem excludes_directory_slash_of_mem (hnames : "" ∉ namesOf directory)
    (hplain : Glob.Plain directory.toList)
    (hslash : '/' ∈ directory.toList) : excludes (directory ++ "/").toList path = false := by
  rw [← Bool.not_eq_true, excludes_directory_slash_iff hnames hplain]
  intro hname
  exact Text.notMem_of_mem_splitFrom rfl (by simp) (List.dropLast_subset _ hname) hslash

/-- A directory of one name with a slash behind it leaves out what lies below the directory. -/
theorem excludes_directory_slash_of_notMem (hnames : "" ∉ namesOf directory)
    (hplain : Glob.Plain directory.toList)
    (hslash : '/' ∉ directory.toList) (below : List Char) :
    excludes (directory ++ "/").toList (directory.toList ++ '/' :: below) = true := by
  obtain ⟨names, hne, hsplit⟩ := splitAtChars_below directory.toList below
  rw [excludes_directory_slash_iff hnames hplain, hsplit, List.dropLast_append_of_ne_nil hne,
    Text.splitAtChars_eq_singleton (Text.beq_eq_false_of_notMem hslash)]
  exact List.mem_append_left _ (List.mem_singleton_self _)

/-- A directory itself as a pattern leaves out what lies below it. -/
theorem excludes_directory_below (hnames : "" ∉ namesOf directory)
    (hplain : Glob.Plain directory.toList)
    (below : List Char) : excludes directory.toList (directory.toList ++ '/' :: below) = true := by
  refine excludes_of_liesUnder (Or.inr ⟨below, rfl⟩) ?_
  by_cases hslash : '/' ∈ directory.toList
  · refine (excludes_path_iff hslash fun hend => ?_).2 ⟨_, Or.inl rfl, Or.inl rfl⟩
    obtain ⟨front, hfront⟩ := hend
    have hlast := getLast?_ne_slash hnames '/' (by rw [← hfront, List.getLast?_concat])
    simp at hlast
  · rw [excludes_of_notMem hslash,
      Text.splitAtChars_eq_singleton (Text.beq_eq_false_of_notMem hslash)]
    simpa using (globMatch_plain_iff hplain).2 rfl

/-- The options of a filter with one more pattern. -/
def FileFilter.Options.adding (options : FileFilter.Options) (pattern : String) :
    FileFilter.Options :=
  { options with extraPatterns := options.extraPatterns ++ [pattern] }

theorem isExcluded_adding (options : FileFilter.Options) (listed : List String)
    (pattern path : String) :
    isExcluded (FileFilter.make (options.adding pattern) listed).patterns path =
      (excludes pattern.toList path.toList ||
        isExcluded (FileFilter.make options listed).patterns path) := by
  simp only [FileFilter.make, FileFilter.Options.adding, isExcluded_append, Bool.or_assoc,
    Bool.or_left_comm]
  simp [isExcluded]

/-- **Directories as patterns.** A directory is made of names without characters that mean something
in a glob. With the directory as one more pattern a filter excludes all that lies below it. With a
slash behind the directory, it does so only if the directory is one name; a directory with a slash
inside excludes nothing that was not excluded before. -/
theorem isExcluded_directory_iff (hnames : "" ∉ namesOf directory)
    (hplain : Glob.Plain directory.toList)
    (options : FileFilter.Options) (listed : List String) :
    (∀ below : String,
      isExcluded (FileFilter.make (options.adding (directory ++ "/")) listed).patterns
        (directory ++ "/" ++ below) = true ↔
        '/' ∉ directory.toList ∨
          isExcluded (FileFilter.make options listed).patterns (directory ++ "/" ++ below) = true) ∧
      ('/' ∈ directory.toList → ∀ path,
        isExcluded (FileFilter.make (options.adding (directory ++ "/")) listed).patterns path =
          isExcluded (FileFilter.make options listed).patterns path) ∧
      ∀ below : String,
        isExcluded (FileFilter.make (options.adding directory) listed).patterns
          (directory ++ "/" ++ below) = true := by
  have hpath (below : String) : (directory ++ "/" ++ below).toList =
    directory.toList ++ '/' :: below.toList := by simp
  have hdead (hslash : '/' ∈ directory.toList) (path : String) :
      isExcluded (FileFilter.make (options.adding (directory ++ "/")) listed).patterns path =
        isExcluded (FileFilter.make options listed).patterns path := by
    rw [isExcluded_adding, excludes_directory_slash_of_mem hnames hplain hslash, Bool.false_or]
  refine ⟨fun below => ?_, hdead, fun below => ?_⟩
  · by_cases hslash : '/' ∈ directory.toList
    · rw [hdead hslash]
      simp [hslash]
    · rw [isExcluded_adding, hpath, excludes_directory_slash_of_notMem hnames hplain hslash]
      simp [hslash]
  · rw [isExcluded_adding, hpath, excludes_directory_below hnames hplain, Bool.true_or]

/-- Below a directory of one name all is left out, with and without the slash. -/
theorem isExcluded_directory_demo :
    "" ∉ namesOf "demo" ∧ Glob.Plain "demo".toList ∧
      isExcluded (FileFilter.make (FileFilter.Options.adding {} "demo/") []).patterns
        "demo/api/Shop.kt" = true ∧
      isExcluded (FileFilter.make (FileFilter.Options.adding {} "demo") []).patterns
        "demo/api/Shop.kt" = true := by
  have hnames : "" ∉ namesOf "demo" := by decide
  have hplain : Glob.Plain "demo".toList := by decide
  obtain ⟨hslash, -, hbelow⟩ := isExcluded_directory_iff hnames hplain {} []
  exact ⟨hnames, hplain, (hslash "api/Shop.kt").2 (Or.inl (by decide)), hbelow "api/Shop.kt"⟩

/-- A directory of two names with a slash behind it is not left out. -/
theorem isExcluded_directory_gen :
    "" ∉ namesOf "src/gen" ∧ Glob.Plain "src/gen".toList ∧
      isExcluded (FileFilter.make (FileFilter.Options.adding {} "src/gen/") []).patterns
        "src/gen/A.kt" = false := by
  decide +kernel

end Directory

end BranchCover
