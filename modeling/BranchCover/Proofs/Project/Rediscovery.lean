import BranchCover.Project.Generation
import BranchCover.Proofs.Project.FileFilter
import BranchCover.Proofs.Project.Path
import BranchCover.Proofs.Suite.Grouping
import BranchCover.Proofs.Synthesis.Run

/-!
# Suites that are found again

The suites of a run are files of the project when the output directory lies in it, and the next run
sees them unless the filter leaves them out. Nothing but the names on their paths and the ignore
file decides that: the filter does not know the output directory.

* `RenderedSuite.writeAll_eq_ok`: the files that are written.
* `Generator.steps_of_run`: a run changes the tree along the paths of its suites.
* `Generator.select_eq_of_leftOut`, `Generator.mem_select_iff_not_leftOut`: what the filter makes of
  them.
* `Generator.discover_run`: what the next run finds.
-/

namespace BranchCover

open FileTree

/-! ### Written suites -/

namespace RenderedSuite

variable {output : Path} {suite : RenderedSuite} {suites : List RenderedSuite}
  {paths written : List Path}
  {tree after : FileTree}

/-- The work of writing a suite. -/
def work (output : Path) (suite : RenderedSuite) : FileM Unit := do
  FileM.makeDirectories (output.join suite.path).parent
  FileM.write (output.join suite.path) (Utf8.encode suite.source.toList)

theorem write_apply (output : Path) (suite : RenderedSuite) (tree : FileTree) :
    suite.write output tree =
      match suite.work output tree with
      | (.ok (), tree) => (.ok (output.join suite.path), tree)
      | (.error cause, tree) => (.error { path := output.join suite.path, cause }, tree) := by
  rcases hwork : suite.work output tree with ⟨result, reached⟩
  -- the failure of the work is a value of the first link
  have hlink : (liftM (ExceptT.run (suite.work output)) : EmissionM (Except FileError Unit)) tree =
      (.ok result, reached) := congrArg (Prod.map Except.ok id) hwork
  refine (FileM.bind_apply_of_ok hlink).trans ?_
  cases result <;> rfl

theorem changes_write (hpath : output.join suite.path ∈ paths) :
    FileM.Changes paths (suite.write output) := by
  intro tree
  have hwork : FileM.Changes paths (suite.work output) :=
    (FileM.changes_makeDirectoriesTo _ _).bind fun _ => FileM.changes_write hpath
  have hrun := hwork tree
  rw [write_apply]
  generalize suite.work output tree = reached at hrun ⊢
  obtain ⟨result, tree'⟩ := reached
  cases result <;> exact hrun

/-- Writing suites changes a tree in steps along their paths. -/
theorem run_writeAll (output : Path) (suites : List RenderedSuite) (tree : FileTree) :
    Run (suites.map fun suite => output.join suite.path) tree (writeAll output suites tree).2 := by
  suffices h : ∀ paths, (∀ suite ∈ suites, output.join suite.path ∈ paths) →
      FileM.Changes paths (writeAll output suites) from
    h _ (fun suite hsuite => List.mem_map.2 ⟨suite, hsuite, rfl⟩) tree
  intro paths
  induction suites with
  | nil => exact fun _ => FileM.changes_pure []
  | cons suite rest ih =>
    intro h
    obtain ⟨hsuite, hrest⟩ := List.forall_mem_cons.1 h
    exact (changes_write hsuite).bind fun _ => (ih hrest).bind fun _ => FileM.changes_pure _

/-- A suite that was written stands where its path leads. -/
theorem entry?_of_write {path : Path} (h : suite.write output tree = (.ok path, after)) :
    path = output.join suite.path ∧
      ∃ place bytes, after.locate path = .ok place ∧ after.entry? place = some (.file bytes) := by
  rw [write_apply] at h
  split at h
  next hwork =>
    cases h
    obtain ⟨_, made, -, hwrite⟩ := FileM.bind_eq_ok hwork
    obtain ⟨place, hplace, hfile⟩ := FileM.entry?_of_write hwrite
    exact ⟨rfl, place, _, hplace, hfile⟩
  · cases h

/-- **The files of a run that succeeds.** Each suite is written, and stands where its path leads in
the end. -/
theorem writeAll_eq_ok (h : writeAll output suites tree = (.ok written, after)) :
    written = suites.map (fun suite => output.join suite.path) ∧
      ∀ path ∈ written, ∃ place bytes, after.locate path = .ok place ∧
        after.entry? place = some (.file bytes) := by
  induction suites generalizing tree written with
  | nil =>
    cases h
    exact ⟨rfl, by simp⟩
  | cons suite rest ih =>
    obtain ⟨path, middle, hwrite, hnext⟩ := FileM.bind_eq_ok h
    obtain ⟨others, reached, hrest, hpure⟩ := FileM.bind_eq_ok hnext
    cases hpure
    obtain ⟨rfl, place, bytes, hplace, hfile⟩ := entry?_of_write hwrite
    obtain ⟨hothers, hall⟩ := ih hrest
    -- what the first suite wrote is not undone by the others
    have hkeeps : Keeps middle after := by
      have hrun := run_writeAll output rest middle
      rw [hrest] at hrun
      exact hrun.keeps
    obtain ⟨bytes, hfile⟩ := hkeeps.file hfile
    exact ⟨by rw [hothers, List.map_cons],
      List.forall_mem_cons.2 ⟨⟨place, bytes, hkeeps.locate hplace, hfile⟩, hall⟩⟩

end RenderedSuite

/-! ### Paths of suites -/

namespace Suite

variable {suite : Suite} {tests : List TestCase} {defaultPackage : String}

theorem slashFree_relativePath (package className : String) :
    (relativePath package className).SlashFree := by
  suffices h : ∀ (parts : List String) (path : Path), path.SlashFree →
      (parts.foldl (fun path part => path.join (Path.ofString part)) path).SlashFree from
    h _ _ (Path.slashFree_ofString "")
  intro parts
  induction parts with
  | nil => exact fun _ => id
  | cons part parts ih => exact fun path hpath => ih _ (hpath.join (Path.slashFree_ofString part))

/-- The last name on the path of a suite is that of its class. -/
theorem exists_concat_relativePath (package : String) {className : String}
    (h : "Test".toList <:+ className.toList) :
    ∃ names name, (relativePath package className).names = names ++ [name] ∧
      "Test.kt".toList <:+ name.toList := by
  obtain ⟨front, hfront⟩ := h
  have htext : "Test.kt".toList <:+ (className ++ ".kt").toList := ⟨front, by simp [← hfront]⟩
  obtain ⟨names, name, hnames, hname⟩ := Path.exists_concat_ofString (by decide) (by decide) htext
  rw [relativePath, List.foldl_append]
  obtain ⟨names, hjoin⟩ := Path.exists_concat_join ⟨names, hnames⟩
  exact ⟨names, name, hjoin, hname⟩

theorem isSuffix_className (h : suite ∈ group tests defaultPackage) :
    "Test".toList <:+ suite.className.toList := by
  obtain ⟨test, -, hkey⟩ := List.mem_map.1 (mem_group_iff.1 h).1
  have hclass : suite.className = classNameFor test := (congrArg Prod.snd hkey).symm
  rw [hclass, classNameFor]
  split
  · exact ⟨_, (String.toList_append).symm⟩
  · exact ⟨_, (String.toList_append).symm⟩

end Suite

namespace Path

theorem suffix_of_last {names : List String} {name : String} (hlast : names.getLast? = some name)
    (hname : "Test.kt".toList <:+ name.toList) : suffix { root := "", names } = ".kt" := by
  obtain ⟨front, hfront⟩ := hname
  have hsplit : name.toList = (front ++ "Test".toList) ++ '.' :: "kt".toList := by simp [← hfront]
  rw [suffix, Path.name, hlast, Option.getD_some, hsplit,
    suffixOf_append (by simp) (by decide) (by decide)]
  rfl

end Path

/-! ### The next run -/

namespace Generator

variable {generator : Generator} {tree after : FileTree} {result : RunResult}
  {listed names : List String}

/-- How the filter of the project is made. -/
def filterOptions (generator : Generator) : FileFilter.Options :=
  { maxKilobytes := some generator.config.maxKilobytes,
    ignorePath := some generator.config.ignorePath }

/-- The filter of the project, if the ignore file lists some patterns. -/
def filterFor (generator : Generator) (listed : List String) : FileFilter :=
  FileFilter.make generator.filterOptions listed

/-- The ignore file of the project lists some patterns. -/
def Lists (generator : Generator) (tree : FileTree) (listed : List String) : Prop :=
  FileFilter.load tree generator.config.project generator.filterOptions =
    .ok (generator.filterFor listed)

instance : Decidable (generator.Lists tree listed) := inferInstanceAs (Decidable (_ = _))

/-- Where a suite is written. -/
def suitePath (generator : Generator) (suite : Suite) : Path :=
  generator.config.outputPath.join suite.render.path

/-- The path of a suite from the project. -/
def suitePathBelow (generator : Generator) (suite : Suite) : Path :=
  (Path.ofString generator.config.outputDirectory).join suite.render.path

theorem suitePath_eq (generator : Generator) (suite : Suite) :
    generator.suitePath suite = generator.config.project.join (generator.suitePathBelow suite) :=
  Path.join_join _ _ _

theorem discover_of_lists (h : generator.Lists tree listed) :
    generator.discover tree = .ok ((generator.filterFor listed).select tree
      generator.config.project) := by
  have hload : FileFilter.load tree generator.config.project
      { maxKilobytes := some generator.config.maxKilobytes,
        ignorePath := some generator.config.ignorePath } =
        .ok (generator.filterFor listed) := h
  delta discover
  simp only [hload]

/-- What a run that succeeds has done. -/
theorem run_eq_ok (h : generator.run false tree = (.ok result, after)) :
    generator.discover tree = .ok result.files ∧
      (∃ built, generator.buildModel tree result.files = .ok built ∧
        result.model = DataFlow.attach built.model generator.config.synthesis.dedupeUses) ∧
      (∃ synthesis, Synthesis.synthesize generator.config.synthesis result.model = .ok synthesis ∧
        result.suites = Suite.group synthesis.tests generator.config.defaultPackage) ∧
      RenderedSuite.writeAll generator.config.outputPath (result.suites.map Suite.render) tree =
        (.ok result.written, after) := by
  delta run at h
  split at h
  · cases h
  next planned hplan =>
    rw [if_neg Bool.false_ne_true] at h
    split at h
    next written after hwritten =>
      cases h
      obtain ⟨analyzed, hanalyze, hrest⟩ := bind_eq_ok_iff.1 hplan
      obtain ⟨synthesis, hsynthesis, hplanned⟩ := bind_eq_ok_iff.1 hrest
      obtain ⟨files, hfiles, hmodel⟩ := bind_eq_ok_iff.1 hanalyze
      obtain ⟨built, hbuilt, hanalyzed⟩ := bind_eq_ok_iff.1 hmodel
      cases hanalyzed
      cases hplanned
      exact ⟨hfiles, ⟨built, hbuilt, rfl⟩, ⟨synthesis, mapError_eq_ok_iff.1 hsynthesis, rfl⟩,
        hwritten⟩
    · cases h

/-- A run that succeeds changes the tree in steps along the paths of its suites. -/
theorem steps_of_run (h : generator.run false tree = (.ok result, after)) :
    Run (result.suites.map generator.suitePath) tree after := by
  obtain ⟨-, -, -, hwrite⟩ := run_eq_ok h
  have hsteps := RenderedSuite.run_writeAll generator.config.outputPath
    (result.suites.map Suite.render) tree
  rw [hwrite, List.map_map] at hsteps
  exact hsteps

theorem eq_empty_of_buildModel_nil {built : BuildResult}
    (h : generator.buildModel tree [] = .ok built) :
    built = {} := by
  rw [buildModel] at h
  split_ifs at h
  obtain ⟨parts, hparts, h⟩ := bind_eq_ok_iff.1 h
  obtain rfl : parts = [] := by
    rw [mapError_eq_ok_iff, batches] at hparts
    split_ifs at hparts
    rw [← Except.ok.inj hparts, pieces, if_neg (by simp)]
  exact (Except.ok.inj h).symm

/-- Where no file is found, no suite is made. -/
theorem suites_eq_nil (h : generator.run false tree = (.ok result, after))
    (hfiles : result.files = []) :
    result.suites = [] := by
  obtain ⟨-, ⟨built, hbuilt, hmodel⟩, ⟨synthesis, hsynthesis, hsuites⟩, -⟩ := run_eq_ok h
  rw [hfiles] at hbuilt
  have hfunctions : result.model.functions = [] := by
    rw [hmodel, eq_empty_of_buildModel_nil hbuilt]
    rfl
  have htests : synthesis.tests = [] := List.eq_nil_iff_forall_not_mem.2 fun test htest => by
    obtain ⟨function, hfunction, -⟩ := Synthesis.exists_origin_of_mem_synthesize hsynthesis htest
    rw [hfunctions] at hfunction
    cases hfunction
  rw [hsuites, htests]
  rfl

/-- Suites are written only where the project is found. -/
theorem exists_locate_project (h : generator.run false tree = (.ok result, after))
    (hsuites : result.suites ≠ []) :
    ∃ top, tree.locate generator.config.project = .ok top := by
  cases hlocate : tree.locate generator.config.project with
  | ok top => exact ⟨top, rfl⟩
  | error fault =>
    refine absurd (suites_eq_nil h ?_) hsuites
    have hfiles : generator.discover tree = .ok result.files := (run_eq_ok h).1
    delta discover at hfiles
    dsimp only at hfiles
    split at hfiles
    · rw [← Except.ok.inj hfiles]
      simp only [FileFilter.select, filesBelow, hlocate]
      rfl
    · cases hfiles

theorem exists_concat_suitePathBelow {suite : Suite}
    (h : generator.run false tree = (.ok result, after))
    (hsuite : suite ∈ result.suites) :
    ∃ names name, (generator.suitePathBelow suite).names = names ++ [name] ∧
      "Test.kt".toList <:+ name.toList := by
  obtain ⟨-, -, ⟨synthesis, -, hsuites⟩, -⟩ := run_eq_ok h
  rw [hsuites] at hsuite
  obtain ⟨names, name, hnames, hname⟩ :=
    Suite.exists_concat_relativePath suite.package (Suite.isSuffix_className hsuite)
  obtain ⟨names, hjoin⟩ := Path.exists_concat_join ⟨names, hnames⟩
  exact ⟨names, name, hjoin, hname⟩

/-- If the output directory is a path in the project that does not go up, its names and those of the
suite lead from the project to the suite. -/
theorem liesBelow_suitePath {suite : Suite} (hrun : generator.run false tree = (.ok result, after))
    (hsuite : suite ∈ result.suites)
    (hrelative : (generator.suitePathBelow suite).isAbsolute = false)
    (hdots : ".." ∉ (generator.suitePathBelow suite).names) {place : List String}
    (hplace : after.locate (generator.suitePath suite) = .ok place) :
    after.LiesBelow generator.config.project (generator.suitePath suite)
      (generator.suitePathBelow suite).names := by
  obtain ⟨top, htop⟩ := exists_locate_project hrun (List.ne_nil_of_mem hsuite)
  obtain ⟨before, name, hnames, -⟩ := exists_concat_suitePathBelow hrun hsuite
  rw [suitePath_eq] at hplace ⊢
  exact liesBelow_join hrelative hdots (by simp [hnames])
    ((steps_of_run hrun).keeps.locate htop) hplace

/-- The name of a suite is that of a source file. -/
theorem suffix_of_liesBelow {suite : Suite} (hrun : generator.run false tree = (.ok result, after))
    (hsuite : suite ∈ result.suites)
    (hlies : after.LiesBelow generator.config.project (generator.suitePath suite) names) :
    Path.suffix { root := "", names } = ".kt" := by
  obtain ⟨before, name, hnames, hname⟩ := exists_concat_suitePathBelow hrun hsuite
  have hdots : name ≠ ".." := by
    rintro rfl
    exact absurd hname (by decide)
  rw [suitePath_eq] at hlies
  exact Path.suffix_of_last (hlies.getLast? hnames hdots) hname

/-- A suite is excluded for the names that lead to it, or for a pattern of the ignore file. -/
theorem isExcluded_iff_leftOut {suite : Suite}
    (h : after.LiesBelow generator.config.project (generator.suitePath suite) names) :
    isExcluded (generator.filterFor listed).patterns ("/".intercalate names) = true ↔
    LeftOut listed names := by
  refine FileFilter.isExcluded_make_iff generator.filterOptions listed h.1 fun name hname => ?_
  rw [suitePath_eq] at h
  exact (Path.slashFree_ofString _).join (Suite.slashFree_relativePath _ _) name (h.subset hname)

/-- Files that are left out are no files of the next run, so it finds what this run found. -/
theorem select_eq_of_leftOut (hrun : generator.run false tree = (.ok result, after))
    (hbefore : generator.Lists tree listed)
    (hleft : ∀ suite ∈ result.suites, ∀ names,
      after.LiesBelow generator.config.project (generator.suitePath suite) names →
      LeftOut listed names) :
    (generator.filterFor listed).select after generator.config.project = result.files := by
  obtain ⟨hfiles, -, -, hwrite⟩ := run_eq_ok hrun
  rw [discover_of_lists hbefore] at hfiles
  rw [← Except.ok.inj hfiles]
  by_cases hsuites : result.suites = []
  · rw [hsuites] at hwrite
    have hsame : tree = after := congrArg Prod.snd hwrite
    rw [hsame]
  obtain ⟨top, htop⟩ := exists_locate_project hrun hsuites
  have hsteps := steps_of_run hrun
  refine FileFilter.select_congr fun names bytes hadmits => ?_
  rw [mem_filesBelow_iff (hsteps.keeps.locate htop), mem_filesBelow_iff htop]
  refine and_congr_right fun hne => mem_entries_run_iff hsteps fun path hpath hlocate => ?_
  -- a suite at the place of the file would be left out, and the filter lets the file through
  obtain ⟨suite, hsuite, rfl⟩ := List.mem_map.1 hpath
  have hlies : after.LiesBelow generator.config.project (generator.suitePath suite) names :=
    ⟨hne, top, hsteps.keeps.locate htop, hlocate⟩
  have hexcluded := (isExcluded_iff_leftOut hlies).2 (hleft suite hsuite names hlies)
  rw [((FileFilter.admits_iff hne).1 hadmits).2.1] at hexcluded
  cases hexcluded

/-- The filter lets a suite through unless it is left out, is too large or is no text. -/
theorem mem_select_iff_not_leftOut {suite : Suite} {bytes : List UInt8}
    (hrun : generator.run false tree = (.ok result, after)) (hsuite : suite ∈ result.suites)
    (hlies : after.LiesBelow generator.config.project (generator.suitePath suite) names)
    (hread : after.read (generator.suitePath suite) = .ok bytes)
    (hsize : (bytes.length : Int) ≤ (generator.filterFor listed).maxBytes)
    (htext : FileFilter.isBinary bytes = false) :
    "/".intercalate names ∈ (generator.filterFor listed).select after generator.config.project ↔
      ¬ LeftOut listed names := by
  obtain ⟨hne, top, htop, hlocate⟩ := id hlies
  rw [← isExcluded_iff_leftOut hlies, Bool.not_eq_true, FileFilter.mem_select_iff]
  constructor
  · rintro ⟨other, _, hmem, hadmits, heq⟩
    have hother : other ≠ [] := ((mem_filesBelow_iff htop).1 hmem).1
    rw [← heq]
    exact ((FileFilter.admits_iff hother).1 hadmits).2.1
  · intro hexcluded
    refine ⟨names, bytes, (mem_filesBelow_iff htop).2 ⟨hne, ?_⟩,
      (FileFilter.admits_iff hne).2 ⟨?_, hexcluded, hsize, htext⟩, rfl⟩
    · obtain ⟨place, hplace, hfile⟩ := read_eq_ok_iff.1 hread
      rw [hlocate] at hplace
      cases hplace
      exact mem_entries_of_stands (by simp [hne]) hfile
    · rw [suffix_of_liesBelow hrun hsuite hlies]
      rfl

/-- **What the next run finds.** The suites of a run are written below the output directory. If that
is a path in the project that does not go up, its names and those of the suite lead from the project
to the file. The filter excludes a suite in the project exactly if one of the names that lead to it
is skipped or the ignore file has a pattern for them; otherwise the next run finds it, unless it is
too large or no text. If all suites in the project are left out, the next run finds the files of
this one. -/
theorem discover_run (hrun : generator.run false tree = (.ok result, after))
    (hbefore : generator.Lists tree listed)
    (hafter : generator.Lists after listed) :
    ∃ files, generator.discover after = .ok files ∧
      result.written = result.suites.map generator.suitePath ∧
      ((∀ suite ∈ result.suites, ∀ names,
        after.LiesBelow generator.config.project (generator.suitePath suite) names →
        LeftOut listed names) →
          files = result.files) ∧
      ∀ suite ∈ result.suites,
        ((generator.suitePathBelow suite).isAbsolute = false →
          ".." ∉ (generator.suitePathBelow suite).names →
          after.LiesBelow generator.config.project (generator.suitePath suite)
            (generator.suitePathBelow suite).names) ∧
        ∃ bytes, after.read (generator.suitePath suite) = .ok bytes ∧
          ∀ names, after.LiesBelow generator.config.project (generator.suitePath suite) names →
            (isExcluded (generator.filterFor listed).patterns ("/".intercalate names) = true ↔
              LeftOut listed names) ∧
            ((bytes.length : Int) ≤ (generator.filterFor listed).maxBytes →
              FileFilter.isBinary bytes = false →
              ("/".intercalate names ∈ files ↔ ¬ LeftOut listed names)) := by
  obtain ⟨-, -, -, hwrite⟩ := run_eq_ok hrun
  obtain ⟨hwritten, hstands⟩ := RenderedSuite.writeAll_eq_ok hwrite
  rw [List.map_map] at hwritten
  refine ⟨_, discover_of_lists hafter, hwritten, select_eq_of_leftOut hrun hbefore,
    fun suite hsuite => ?_⟩
  obtain ⟨place, bytes, hplace, hfile⟩ := hstands (generator.suitePath suite)
    (hwritten ▸ List.mem_map.2 ⟨suite, hsuite, rfl⟩)
  have hread : after.read (generator.suitePath suite) = .ok bytes :=
    read_eq_ok_iff.2 ⟨place, hplace, hfile⟩
  exact ⟨fun hrelative hdots => liesBelow_suitePath hrun hsuite hrelative hdots hplace,
    bytes, hread, fun names hlies =>
      ⟨isExcluded_iff_leftOut hlies, mem_select_iff_not_leftOut hrun hsuite hlies hread⟩⟩

/-! ### Examples -/

/-- What the grammar says of the source of one function. -/
def demoGrammar : Grammar := fun text =>
  if text = "fun f() \x7b\n\x7d\n" then
    some [.node { type := "function_declaration", start := 0, stop := 11 }
      [.node { type := "fun", start := 0, stop := 3, named := false } [],
       .node { type := "identifier", start := 4, stop := 5, field := some "name" } [],
       .node { type := "function_value_parameters", start := 5, stop := 7 } [],
       .node { type := "function_body", start := 8, stop := 11 } []]]
  else none

/-- The generator of a project with an output directory. -/
def demoGenerator (outputDirectory : String) : Generator where
  config := { project := Path.ofString "/p", outputDirectory }
  languages := [Language.kotlin]
  grammar := demoGrammar

/-- A project with one source file. -/
def demoTree : FileTree where
  entries := [(["p"], .directory),
    (["p", "a.kt"], .file (Utf8.encode "fun f() \x7b\n\x7d\n".toList))]

/-- In a directory of tests the suite is left out, and the next run finds the same files. -/
theorem discover_run_tests :
    ∃ result after, (demoGenerator "src/test/kotlin").run false demoTree = (.ok result, after) ∧
      result.written = [Path.ofString "/p/src/test/kotlin/generated/FTest.kt"] ∧
      (demoGenerator "src/test/kotlin").discover after = .ok result.files := by
  obtain ⟨hrun, hlocate, htop, hbefore, hafter⟩ :
      ((demoGenerator "src/test/kotlin").run false demoTree).1.map (·.written) =
        .ok [Path.ofString "/p/src/test/kotlin/generated/FTest.kt"] ∧
      ((demoGenerator "src/test/kotlin").run false demoTree).2.locate
        (Path.ofString "/p/src/test/kotlin/generated/FTest.kt") =
          .ok ["p", "src", "test", "kotlin", "generated", "FTest.kt"] ∧
      ((demoGenerator "src/test/kotlin").run false demoTree).2.locate (Path.ofString "/p") =
        .ok ["p"] ∧
      (demoGenerator "src/test/kotlin").Lists demoTree [] ∧
      (demoGenerator "src/test/kotlin").Lists
      ((demoGenerator "src/test/kotlin").run false demoTree).2 [] := by
    decide +kernel
  generalize hreached : (demoGenerator "src/test/kotlin").run false demoTree =
    reached at hrun hlocate htop hafter
  obtain ⟨outcome, after⟩ := reached
  obtain ⟨result, rfl, hwritten⟩ := map_eq_ok_iff.1 hrun
  obtain ⟨files, hfiles, hpaths, hsame, -⟩ := discover_run hreached hbefore hafter
  refine ⟨result, after, rfl, hwritten, ?_⟩
  rw [hfiles, hsame]
  rintro suite hsuite names ⟨-, top, htop', hplace⟩
  have hpath : (demoGenerator "src/test/kotlin").suitePath suite ∈ result.written :=
    hpaths ▸ List.mem_map_of_mem hsuite
  rw [hwritten, List.mem_singleton] at hpath
  rw [hpath, hlocate] at hplace
  have hnames : ["p", "src", "test", "kotlin", "generated", "FTest.kt"] = top ++ names :=
    Except.ok.inj hplace
  obtain rfl : top = ["p"] := Except.ok.inj (htop'.symm.trans htop)
  obtain rfl : ["src", "test", "kotlin", "generated", "FTest.kt"] = names :=
    (List.cons.inj hnames).2
  exact Or.inl ⟨"test", by simp, by decide⟩

/-- In another directory of the project the suite is found again. -/
theorem discover_run_generated :
    ∃ result after path names, (demoGenerator "generated").run false demoTree =
      (.ok result, after) ∧
      result.written = [path] ∧ after.LiesBelow (demoGenerator "generated").config.project
        path names ∧
      isExcluded ((demoGenerator "generated").filterFor []).patterns ("/".intercalate names) =
        false ∧
      (demoGenerator "generated").Lists after [] ∧
      (demoGenerator "generated").discover demoTree = .ok ["a.kt"] ∧
      (demoGenerator "generated").discover after =
        .ok ["a.kt", "generated/generated/FTest.kt"] := by
  obtain ⟨hrun, hlocate, htop, hrest⟩ :
      ((demoGenerator "generated").run false demoTree).1.map (·.written) =
        .ok [Path.ofString "/p/generated/generated/FTest.kt"] ∧
      ((demoGenerator "generated").run false demoTree).2.locate
      (Path.ofString "/p/generated/generated/FTest.kt") =
        .ok ["p", "generated", "generated", "FTest.kt"] ∧
      ((demoGenerator "generated").run false demoTree).2.locate (Path.ofString "/p") = .ok ["p"] ∧
      isExcluded ((demoGenerator "generated").filterFor []).patterns
        ("/".intercalate ["generated", "generated", "FTest.kt"]) = false ∧
      (demoGenerator "generated").Lists ((demoGenerator "generated").run false demoTree).2 [] ∧
      (demoGenerator "generated").discover demoTree = .ok ["a.kt"] ∧
      (demoGenerator "generated").discover ((demoGenerator "generated").run false demoTree).2 =
        .ok ["a.kt", "generated/generated/FTest.kt"] := by
    decide +kernel
  generalize (demoGenerator "generated").run false demoTree = reached at hrun hlocate htop hrest
  obtain ⟨outcome, after⟩ := reached
  obtain ⟨result, rfl, hwritten⟩ := map_eq_ok_iff.1 hrun
  exact ⟨result, after, _, ["generated", "generated", "FTest.kt"], rfl, hwritten,
    ⟨by decide, ["p"], htop, hlocate⟩, hrest⟩

end Generator

end BranchCover
