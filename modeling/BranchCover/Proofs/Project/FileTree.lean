import BranchCover.Project.FileTree
import Mathlib.Data.List.Basic
import Mathlib.Logic.Relation
import Mathlib.Tactic.SplitIfs

/-!
# Changes of file trees

Work on a tree changes it in steps: a directory is made where nothing stands, or a file is written
where one of some paths leads and no directory stands. So directories stay directories and files
stay files, a path that leads to a place leads there for good, and the files at other places are not
touched.

* `FileTree.Step`: one change.
* `FileTree.Keeps`: what a change leaves as it is, and with it all that leads through directories.
* `FileTree.LiesBelow`: the names that lead from a directory to the place of a path.
* `FileTree.mem_entries_run_iff`: a file that no path leads to is the same behind a run.
* `FileM.Changes`: the work that consists of steps.
-/

namespace BranchCover

namespace FileTree

variable {tree tree' : FileTree} {place other names : List String} {entry : FileEntry}
  {paths : List Path} {path : Path}

/-! ### One more entry -/

theorem lookup_putEntry (place other : List String) (entry : FileEntry)
    (entries : List (List String × FileEntry)) :
    (putEntry place entry entries).lookup other = if other = place then some entry
      else entries.lookup other := by
  induction entries with
  | nil =>
    rw [putEntry, List.lookup_cons]
    split_ifs with h
    · simp [h]
    · simp [beq_false_of_ne h]
  | cons first rest ih =>
    rw [putEntry, apply_ite (List.lookup other), List.lookup_cons, List.lookup_cons,
      List.lookup_cons, ih]
    split_ifs with hfirst h h
    · simp [h]
    · simp [hfirst, beq_false_of_ne h]
    · simp [h, beq_false_of_ne (Ne.symm hfirst)]
    · rfl

theorem mem_putEntry {entries : List (List String × FileEntry)} {given : List String × FileEntry}
    (h : given ∈ putEntry place entry entries) : given = (place, entry) ∨ given ∈ entries := by
  induction entries with
  | nil => exact Or.inl (List.mem_singleton.1 h)
  | cons first rest ih =>
    rw [putEntry] at h
    split_ifs at h with hfirst
    · rcases List.mem_cons.1 h with h | h
      · exact Or.inl h
      · exact Or.inr (List.mem_cons_of_mem first h)
    · rcases List.mem_cons.1 h with rfl | h
      · exact Or.inr List.mem_cons_self
      · exact (ih h).imp_right (List.mem_cons_of_mem first)

theorem mem_putEntry_of_ne {entries : List (List String × FileEntry)}
    {given : List String × FileEntry}
    (h : given ∈ entries) (hne : given.1 ≠ place) : given ∈ putEntry place entry entries := by
  induction entries with
  | nil => cases h
  | cons first rest ih =>
    rw [putEntry]
    rcases List.mem_cons.1 h with rfl | h
    · rw [if_neg hne]
      exact List.mem_cons_self
    · split_ifs
      · exact List.mem_cons_of_mem _ h
      · exact List.mem_cons_of_mem _ (ih h)

/-- What stands at a place is one of the entries, unless it is the root. -/
theorem mem_entries_of_stands (hplace : place ≠ []) (h : tree.entry? place = some entry) :
    (place, entry) ∈ tree.entries := by
  unfold entry? at h
  rw [if_neg (by simpa using hplace)] at h
  obtain ⟨before, after, heq, -⟩ := List.lookup_eq_some_iff.1 h
  simp [heq]

theorem notMem_entries_of_free (h : tree.entry? place = none) : (place, entry) ∉ tree.entries := by
  unfold entry? at h
  split_ifs at h
  exact fun hmem => by simpa using List.lookup_eq_none_iff.1 h _ hmem

theorem ne_nil_of_ne_directory (h : tree.entry? place ≠ some .directory) : place ≠ [] := by
  rintro rfl
  exact h rfl

theorem entry?_put (hplace : place ≠ []) (other : List String) :
    entry? (tree.put place entry) other = if other = place then some entry
      else tree.entry? other := by
  by_cases hother : other = []
  · subst hother
    rw [if_neg hplace.symm]
    rfl
  · have hempty : ¬ other.isEmpty = true := by simpa using hother
    simp only [if_neg hempty, entry?]
    exact lookup_putEntry place other entry tree.entries

/-! ### Steps -/

/-- One change of a tree: a directory is made where nothing stands, or a file is written where one
of some paths leads and no directory stands. -/
inductive Step (paths : List Path) (tree : FileTree) : FileTree → Prop
  | directory {place : List String} (hfree : tree.entry? place = none) :
      Step paths tree (tree.put place .directory)
  | file {path : Path} {place : List String} {bytes : List UInt8} (hpath : path ∈ paths)
      (hplace : tree.locate path = .ok place) (hnot : tree.entry? place ≠ some .directory) :
      Step paths tree (tree.put place (.file bytes))

/-- The changes of some paths, one after another. -/
abbrev Run (paths : List Path) : FileTree → FileTree → Prop := Relation.ReflTransGen (Step paths)

/-- What no change takes away: directories stay, and files stay files. -/
structure Keeps (tree tree' : FileTree) : Prop where
  current : tree'.current = tree.current
  directory : ∀ {place}, tree.entry? place = some .directory → tree'.entry? place = some .directory
  file : ∀ {place bytes}, tree.entry? place = some (.file bytes) → ∃ bytes,
      tree'.entry? place = some (.file bytes)

theorem Keeps.refl (tree : FileTree) : Keeps tree tree where
  current := rfl
  directory := id
  file := fun h => ⟨_, h⟩

theorem Keeps.trans {tree'' : FileTree} (h : Keeps tree tree') (h' : Keeps tree' tree'') :
    Keeps tree tree'' where
  current := h'.current.trans h.current
  directory := fun hplace => h'.directory (h.directory hplace)
  file := fun hplace => (h.file hplace).elim fun _ hfile => h'.file hfile

theorem Step.keeps (h : Step paths tree tree') : Keeps tree tree' := by
  cases h with
  | @directory place hfree =>
    have hne : place ≠ [] := ne_nil_of_ne_directory fun hroot => by cases hfree.symm.trans hroot
    refine ⟨rfl, fun {other} hother => ?_, fun {other bytes} hother => ⟨bytes, ?_⟩⟩
    · rw [entry?_put hne]
      split_ifs
      · rfl
      · exact hother
    · rw [entry?_put hne, if_neg, hother]
      rintro rfl
      simp [hfree] at hother
  | @file path place bytes hpath hplace hnot =>
    have hne : place ≠ [] := ne_nil_of_ne_directory hnot
    refine ⟨rfl, fun {other} hother => ?_, fun {other old} hother => ?_⟩
    · rw [entry?_put hne, if_neg, hother]
      rintro rfl
      exact hnot hother
    · rw [entry?_put hne]
      split_ifs
      · exact ⟨bytes, rfl⟩
      · exact ⟨old, hother⟩

theorem Run.keeps (h : Run paths tree tree') : Keeps tree tree' := by
  induction h with
  | refl => exact Keeps.refl tree
  | tail _ step ih => exact ih.trans step.keeps

/-! ### The way to a place -/

theorem follow_append (tree : FileTree) (place names more : List String) :
    tree.follow place (names ++ more) = (tree.follow place names).bind fun place =>
      tree.follow place more := by
  induction names generalizing place with
  | nil => rfl
  | cons name names ih =>
    rw [List.cons_append, follow, follow]
    cases tree.entry? place with
    | none => rfl
    | some entry =>
      cases entry with
      | file bytes => rfl
      | directory =>
        dsimp only
        split_ifs
        · rfl
        · exact ih _
        · exact ih _

/-- A way of one more name leads through a directory. -/
theorem follow_cons_eq_ok {name : String} {target : List String}
    (h : tree.follow place (name :: names) = .ok target) :
    tree.entry? place = some .directory ∧ ¬ maxNameBytes < name.utf8ByteSize ∧
      tree.follow (if name = ".." then place.dropLast else place ++ [name]) names = .ok target := by
  rw [follow] at h
  split at h
  next hplace =>
    by_cases hlong : maxNameBytes < name.utf8ByteSize
    · rw [if_pos hlong] at h
      cases h
    · exact ⟨hplace, hlong, (if_neg hlong).symm.trans h⟩
  · cases h
  · cases h

theorem follow_cons {name : String} (hplace : tree.entry? place = some .directory)
    (hlong : ¬ maxNameBytes < name.utf8ByteSize) :
    tree.follow place (name :: names) =
      tree.follow (if name = ".." then place.dropLast else place ++ [name]) names := by
  rw [follow, hplace]
  exact if_neg hlong

theorem Keeps.follow (h : Keeps tree tree') {target : List String}
    (hfollow : tree.follow place names = .ok target) :
    tree'.follow place names = .ok target := by
  induction names generalizing place with
  | nil => exact hfollow
  | cons name names ih =>
    obtain ⟨hplace, hlong, hrest⟩ := follow_cons_eq_ok hfollow
    rw [follow_cons (h.directory hplace) hlong]
    exact ih hrest

theorem locate_eq_ok_iff :
    tree.locate path = .ok place ↔ path.hasNull = false ∧ ¬ maxPathBytes < path.text.utf8ByteSize ∧
      tree.follow (tree.start path) path.names = .ok place := by
  rw [locate]
  split_ifs with hnull hlong
  · simp [hnull]
  · simp [hlong]
  · simp [hnull, hlong]

theorem read_eq_ok_iff {bytes : List UInt8} : tree.read path = .ok bytes ↔
    ∃ place, tree.locate path = .ok place ∧ tree.entry? place = some (.file bytes) := by
  rw [read]
  cases tree.locate path with
  | error fault => simp
  | ok place =>
    cases hentry : tree.entry? place with
    | none => simp [hentry]
    | some entry => cases entry <;> simp [hentry]

/-- A path that leads to a place leads there whatever is added to the tree. -/
theorem Keeps.locate (h : Keeps tree tree') (hlocate : tree.locate path = .ok place) :
    tree'.locate path = .ok place := by
  obtain ⟨hnull, hlong, hfollow⟩ := locate_eq_ok_iff.1 hlocate
  refine locate_eq_ok_iff.2 ⟨hnull, hlong, ?_⟩
  rw [start, h.current]
  exact h.follow hfollow

/-- A path leads from the place it starts from, or from one above that, by some of its names. -/
theorem follow_eq_take_append {target : List String} (h : tree.follow place names = .ok target) :
    ∃ count down, target = place.take count ++ down ∧ down ⊆ names := by
  induction names generalizing place with
  | nil =>
    obtain rfl := Except.ok.inj h
    exact ⟨place.length, [], by simp, by simp⟩
  | cons name names ih =>
    obtain ⟨-, -, hrest⟩ := follow_cons_eq_ok h
    obtain ⟨count, down, rfl, hdown⟩ := ih hrest
    have hnames : down ⊆ name :: names :=
      fun other hother => List.mem_cons_of_mem name (hdown hother)
    by_cases hname : name = ".."
    · refine ⟨min count (place.length - 1), down, ?_, hnames⟩
      rw [if_pos hname, List.dropLast_eq_take, List.take_take]
    · rw [if_neg hname, List.take_append]
      refine ⟨count, [name].take (count - place.length) ++ down, List.append_assoc _ _ _, ?_⟩
      refine List.append_subset.2 ⟨fun other hother => ?_, hnames⟩
      rw [List.mem_singleton.1 (List.mem_of_mem_take hother)]
      exact List.mem_cons_self

/-- A path without `..` leads down by all its names. -/
theorem follow_eq_append {target : List String} (hnames : ".." ∉ names)
    (h : tree.follow place names = .ok target) :
    target = place ++ names := by
  induction names generalizing place with
  | nil =>
    obtain rfl := Except.ok.inj h
    simp
  | cons name names ih =>
    obtain ⟨hname, hnames⟩ := not_or.1 (mt List.mem_cons.2 hnames)
    obtain ⟨-, -, hrest⟩ := follow_cons_eq_ok h
    rw [if_neg (Ne.symm hname)] at hrest
    simpa using ih hnames hrest

/-! ### Below a directory -/

/-- A path leads below a directory, by some names from there. -/
def LiesBelow (tree : FileTree) (directory path : Path) (names : List String) : Prop :=
  names ≠ [] ∧ ∃ top, tree.locate directory = .ok top ∧ tree.locate path = .ok (top ++ names)

variable {directory below : Path} {top target : List String}

/-- A path taken below a directory goes on from there, unless it is absolute. -/
theorem follow_of_locate_join (htop : tree.locate directory = .ok top)
    (h : tree.locate (directory.join below) = .ok target) :
    tree.follow (if below.isAbsolute then [] else top) below.names = .ok target := by
  have hfollow := (locate_eq_ok_iff.1 h).2.2
  by_cases habsolute : below.isAbsolute = true
  · rw [if_pos habsolute]
    rwa [Path.join, if_pos habsolute, start, if_pos habsolute] at hfollow
  · rw [if_neg habsolute]
    rw [Path.join, if_neg habsolute] at hfollow
    have hstart : tree.follow (tree.start directory) (directory.names ++ below.names) =
      .ok target := hfollow
    rwa [follow_append, (locate_eq_ok_iff.1 htop).2.2] at hstart

/-- The names from a directory to a place below it are names of the path. -/
theorem LiesBelow.subset (h : tree.LiesBelow directory (directory.join below) names) :
    names ⊆ below.names := by
  obtain ⟨-, top, htop, hlocate⟩ := h
  have hfollow := follow_of_locate_join htop hlocate
  have hlength : (if below.isAbsolute then [] else top).length ≤ top.length := by split_ifs <;> simp
  obtain ⟨count, down, heq, hdown⟩ := follow_eq_take_append hfollow
  -- the path turns down at the directory or above it, so what is behind the directory is on the way
  -- down
  rcases List.append_eq_append_iff.1 heq with ⟨extra, hextra, rfl⟩ | ⟨extra, -, rfl⟩
  · have hnil : extra = [] := by
      have hle := congrArg List.length hextra
      rw [List.length_take, List.length_append] at hle
      exact List.eq_nil_of_length_eq_zero (by omega)
    rwa [hnil, List.nil_append]
  · exact fun name hname => hdown (List.mem_append_right extra hname)

/-- The last name on the way to a place below a directory is that of the path. -/
theorem LiesBelow.getLast? {before : List String} {name : String}
    (h : tree.LiesBelow directory (directory.join below) names)
    (hlast : below.names = before ++ [name])
    (hname : name ≠ "..") : names.getLast? = some name := by
  obtain ⟨hne, top, htop, hlocate⟩ := h
  have hfollow := follow_of_locate_join htop hlocate
  rw [hlast, follow_append] at hfollow
  cases hbefore : tree.follow (if below.isAbsolute then [] else top) before with
  | error fault =>
    rw [hbefore] at hfollow
    cases hfollow
  | ok place =>
    rw [hbefore] at hfollow
    obtain ⟨-, -, hplace⟩ := follow_cons_eq_ok hfollow
    rw [if_neg hname] at hplace
    have heq : place ++ [name] = top ++ names := Except.ok.inj hplace
    rw [← List.getLast?_append_of_ne_nil top hne, ← heq, List.getLast?_concat]

/-- A relative path without `..` leads below a directory by its own names. -/
theorem liesBelow_join (hroot : below.isAbsolute = false) (hdots : ".." ∉ below.names)
    (hne : below.names ≠ [])
    (htop : tree.locate directory = .ok top) (h : tree.locate (directory.join below) = .ok target) :
    tree.LiesBelow directory (directory.join below) below.names := by
  have hfollow := follow_of_locate_join htop h
  rw [hroot] at hfollow
  exact ⟨hne, top, htop, follow_eq_append hdots hfollow ▸ h⟩

/-! ### Files that are not touched -/

theorem namesBehind?_eq_some_iff {top : List String} : namesBehind? top place = some names ↔
    place = top ++ names := by
  induction top generalizing place with
  | nil => simp [namesBehind?]
  | cons name top ih =>
    cases place with
    | nil => simp [namesBehind?]
    | cons first place =>
      rw [namesBehind?]
      split_ifs with hname
      · rw [ih, hname, List.cons_append, List.cons.injEq, and_iff_right rfl]
      · simp [Ne.symm hname]

/-- The files below a directory are the entries of files whose places are behind its own. -/
theorem mem_filesBelow_iff {top : List String} {bytes : List UInt8}
    (htop : tree.locate path = .ok top) :
    (names, bytes) ∈ tree.filesBelow path ↔
    names ≠ [] ∧ (top ++ names, .file bytes) ∈ tree.entries := by
  rw [filesBelow, htop]
  dsimp only
  rw [List.mem_filterMap]
  constructor
  · rintro ⟨⟨place, entry⟩, hmem, hsome⟩
    dsimp only at hsome
    split at hsome
    next old name rest hbehind =>
      cases hsome
      rw [← namesBehind?_eq_some_iff.1 hbehind]
      exact ⟨List.cons_ne_nil name rest, hmem⟩
    · cases hsome
  · rintro ⟨hne, hmem⟩
    obtain ⟨name, rest, rfl⟩ := List.exists_cons_of_ne_nil hne
    exact ⟨_, hmem, by rw [namesBehind?_eq_some_iff.2 rfl]⟩

/-- A step leaves alone the files that none of the paths leads to. -/
theorem Step.mem_entries_iff {bytes : List UInt8} (h : Step paths tree tree')
    (hother : ∀ path ∈ paths, tree.locate path ≠ .ok other) :
    (other, .file bytes) ∈ tree'.entries ↔ (other, .file bytes) ∈ tree.entries := by
  cases h with
  | @directory place hfree =>
    constructor
    · intro h
      refine (mem_putEntry h).resolve_left fun heq => ?_
      cases heq
    · refine fun h => mem_putEntry_of_ne h ?_
      rintro rfl
      exact notMem_entries_of_free hfree h
  | @file path place bytes hpath hplace hnot =>
    have hne : other ≠ place := by
      rintro rfl
      exact hother path hpath hplace
    constructor
    · intro h
      refine (mem_putEntry h).resolve_left fun heq => ?_
      exact hne (congrArg Prod.fst heq)
    · exact fun h => mem_putEntry_of_ne h hne

/-- A run leaves alone the files that none of its paths leads to in the end. -/
theorem mem_entries_run_iff {bytes : List UInt8} (h : Run paths tree tree')
    (hother : ∀ path ∈ paths, tree'.locate path ≠ .ok other) :
    (other, .file bytes) ∈ tree'.entries ↔ (other, .file bytes) ∈ tree.entries := by
  induction h with
  | refl => rfl
  | tail _ step ih =>
    have hbefore : ∀ path ∈ paths, _ ≠ _ :=
      fun path hpath hlocate => hother path hpath (step.keeps.locate hlocate)
    rw [step.mem_entries_iff hbefore, ih hbefore]

end FileTree

/-! ### Work in steps -/

namespace FileM

open FileTree

variable {ε α β : Type} {paths : List Path} {path : Path} {tree after : FileTree}

/-- Work that changes a tree in steps, whether it succeeds or fails. -/
def Changes (paths : List Path) (work : ExceptT ε (StateM FileTree) α) : Prop :=
  ∀ tree, Run paths tree (work tree).2

/-- A chain goes on with the value and the tree of its first link, and ends where that fails. -/
theorem bind_apply (work : ExceptT ε (StateM FileTree) α) (next : α → ExceptT ε (StateM FileTree) β)
    (tree : FileTree) :
    (work >>= next) tree =
      match work tree with
      | (.ok a, tree) => next a tree
      | (.error error, tree) => (.error error, tree) := by
  show (match work tree with | (a, tree) => ExceptT.bindCont next a tree) = _
  rcases work tree with ⟨result, tree⟩
  cases result <;> rfl

/-- A chain goes on behind a first link that succeeds. -/
theorem bind_apply_of_ok {work : ExceptT ε (StateM FileTree) α}
    {next : α → ExceptT ε (StateM FileTree) β} {a : α}
    (h : work tree = (.ok a, after)) : (work >>= next) tree = next a after := by
  rw [bind_apply, h]

/-- The links of a chain that succeeds. -/
theorem bind_eq_ok {work : ExceptT ε (StateM FileTree) α}
    {next : α → ExceptT ε (StateM FileTree) β} {b : β}
    (h : (work >>= next) tree = (.ok b, after)) :
    ∃ a middle, work tree = (.ok a, middle) ∧ next a middle = (.ok b, after) := by
  rw [bind_apply] at h
  split at h
  next a middle hwork => exact ⟨a, middle, hwork, h⟩
  · cases h

theorem Changes.bind {work : ExceptT ε (StateM FileTree) α}
    {next : α → ExceptT ε (StateM FileTree) β}
    (hwork : Changes paths work) (hnext : ∀ a, Changes paths (next a)) :
      Changes paths (work >>= next) := by
  intro tree
  have hrun := hwork tree
  rw [bind_apply]
  generalize work tree = reached at hrun ⊢
  obtain ⟨result, tree'⟩ := reached
  cases result with
  | ok a => exact hrun.trans (hnext a tree')
  | error error => exact hrun

theorem changes_pure (a : α) : Changes paths (pure a : ExceptT ε (StateM FileTree) α) :=
  fun _ => .refl

theorem changes_get : Changes paths (get : ExceptT ε (StateM FileTree) FileTree) := fun _ => .refl

theorem makeDirectory_apply (path : Path) (tree : FileTree) :
    makeDirectory path tree =
      match tree.locate path with
      | .error fault => (.error { fault, path }, tree)
      | .ok place =>
        if (tree.entry? place).isSome then (.error { fault := .alreadyThere, path }, tree)
        else (.ok (), tree.put place .directory) := by
  rw [makeDirectory, bind_apply]
  show (match tree.locate path with
    | .error fault => throw { fault, path }
    | .ok place =>
      if (tree.entry? place).isSome then throw { fault := .alreadyThere, path }
      else set (tree.put place .directory) : FileM Unit) tree = _
  cases tree.locate path with
  | error fault => rfl
  | ok place =>
    dsimp only
    split_ifs <;> rfl

theorem write_apply (path : Path) (bytes : List UInt8) (tree : FileTree) :
    write path bytes tree =
      match tree.locate path with
      | .error fault => (.error { fault, path }, tree)
      | .ok place =>
        if tree.entry? place = some .directory then (.error { fault := .isDirectory, path }, tree)
        else (.ok (), tree.put place (.file bytes)) := by
  rw [write, bind_apply]
  show (match tree.locate path with
    | .error fault => throw { fault, path }
    | .ok place =>
      if tree.entry? place = some .directory then throw { fault := .isDirectory, path }
      else set (tree.put place (.file bytes)) : FileM Unit) tree = _
  cases tree.locate path with
  | error fault => rfl
  | ok place =>
    dsimp only
    split_ifs <;> rfl

theorem changes_makeDirectory (path : Path) : Changes paths (makeDirectory path) := by
  intro tree
  rw [makeDirectory_apply]
  split
  · exact .refl
  · split_ifs with hsome
    · exact .refl
    · exact .single (.directory (by simpa using hsome))

theorem changes_ensureDirectory (path : Path) : Changes paths (ensureDirectory path) := by
  refine changes_get.bind fun tree => ?_
  split_ifs
  · exact changes_pure ()
  · exact changes_makeDirectory path

theorem changes_makeDirectoriesTo (root : String) (names : List String) :
    Changes paths (makeDirectoriesTo root names) := by
  induction names with
  | nil => exact changes_ensureDirectory _
  | cons name above ih =>
    refine changes_get.bind fun tree => ?_
    split
    · exact ih.bind fun _ => changes_ensureDirectory _
    · exact changes_ensureDirectory _

theorem changes_write {bytes : List UInt8} (hpath : path ∈ paths) :
    Changes paths (write path bytes) := by
  intro tree
  rw [write_apply]
  split
  · exact .refl
  next place hplace =>
    split_ifs with hnot
    · exact .refl
    · exact .single (.file hpath hplace hnot)

/-- A file that was written stands where its path leads. -/
theorem entry?_of_write {bytes : List UInt8} (h : write path bytes tree = (.ok (), after)) :
    ∃ place, after.locate path = .ok place ∧ after.entry? place = some (.file bytes) := by
  have hrun : Run [path] tree (write path bytes tree).2 :=
    changes_write (List.mem_singleton_self path) tree
  rw [h] at hrun
  rw [write_apply] at h
  split at h
  · cases h
  next place hplace =>
    refine ⟨place, hrun.keeps.locate hplace, ?_⟩
    split_ifs at h with hnot
    · cases h
    · cases h
      rw [entry?_put (ne_nil_of_ne_directory hnot), if_pos rfl]

end FileM

end BranchCover
