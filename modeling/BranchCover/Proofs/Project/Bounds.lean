import BranchCover.Proofs.Project.Configuration

/-!
# Configurations within the bounds of their options

What is read from an option file is within the bounds of its option, and so is each default. A seed
that is set outside the file, in the environment or on the command line, is taken as it is. So a
configuration is within all bounds exactly if the seed that was set for it outside the file is.

* `Config.InBounds`: each integer is within the bounds of its option, and each choice is one of the
  listed.
* `inBounds_load`: what the option file gives.
* `SettingsCache.History`: the environments in which a cache was filled.
* `effective_inBounds`: the configurations that the environment and the command line give.
-/

namespace BranchCover

/-! ### Bounds -/

/-- An integer within the bounds of an option. -/
def IntegerOption.Within (option : IntegerOption) (value : Int) : Prop :=
  option.least ≤ value ∧ ∀ greatest, option.greatest = some greatest → value ≤ greatest

/-- What passes the check of an option is within its bounds, and unchanged. -/
theorem IntegerOption.check_eq_ok_iff {option : IntegerOption} {value checked : Int} :
    option.check value = .ok checked ↔ value = checked ∧ option.Within value := by
  rcases option.check_cases value with ⟨hcheck, hwithin⟩ | ⟨error, hcheck, hwithin⟩
  · rw [hcheck, Except.ok.injEq]
    exact ⟨fun h => ⟨h, hwithin⟩, fun h => h.1⟩
  · rw [hcheck]
    exact ⟨nofun, fun h => absurd h.2 hwithin⟩

/-- What is read for an option is within its bounds. The default is checked like any other value. -/
theorem IntegerOption.within_of_read {option : IntegerOption} {ini : Ini} {value : Int}
    (h : option.read ini = .ok value) : option.Within value := by
  have hchecked : ∀ n, (option.check n).mapError LoadError.config = .ok value →
      option.Within value := by
    intro n hn
    obtain ⟨rfl, hwithin⟩ := check_eq_ok_iff.1 (mapError_eq_ok_iff.1 hn)
    exact hwithin
  obtain ⟨found, -, h⟩ := bind_eq_ok_iff.1 h
  cases found with
  | none => exact hchecked _ h
  | some raw =>
    dsimp only at h
    cases hraw : Text.integer? raw with
    | none =>
      rw [hraw] at h
      cases h
    | some n =>
      rw [hraw] at h
      exact hchecked n h

namespace Config

/-- The integers of a configuration with their options, the seed first. -/
def integers (config : Config) : List (IntegerOption × Int) :=
  [(seedOption, config.synthesis.seed),
   (attemptBudgetOption, config.synthesis.attemptBudget),
   (maxExhaustiveAtomsOption, config.synthesis.maxExhaustiveAtoms),
   (elseRetryLimitOption, config.synthesis.elseRetryLimit),
   (maxKilobytesOption, config.maxKilobytes),
   (parallelLimitOption, config.parallelLimit)]

/-- The choices of a configuration as they are written, with the texts that are listed for them. -/
def choices (config : Config) : List (List String × String) :=
  [(policyOption.texts, config.synthesis.policy.text),
    (oracleOption.texts, config.synthesis.oracle.text)]

/-- Each integer is within the bounds of its option, and each choice is one of the listed. -/
structure InBounds (config : Config) : Prop where
  integers : ∀ pair ∈ config.integers, pair.1.Within pair.2
  choices : ∀ pair ∈ config.choices, pair.2 ∈ pair.1

variable {config changed : Config} {tree : FileTree} {project : Path} {file : Option Path}

/-- The values of a choice are those that are listed. -/
theorem listed_choices (config : Config) : ∀ pair ∈ config.choices, pair.2 ∈ pair.1 := by
  have hpolicy : ∀ policy : Policy, policy.text ∈ policyOption.texts := by
    intro policy
    cases policy <;> decide
  have horacle : ∀ mode : Oracle.Mode, mode.text ∈ oracleOption.texts := by
    intro mode
    cases mode <;> decide
  intro pair hpair
  simp only [choices, List.mem_cons, List.not_mem_nil, or_false] at hpair
  rcases hpair with rfl | rfl
  · exact hpolicy _
  · exact horacle _

/-- The options of a file give a configuration within the bounds, or none. -/
theorem inBounds_ofIni {ini : Ini} (h : ofIni project ini = .ok config) : config.InBounds := by
  refine ⟨?_, listed_choices config⟩
  obtain ⟨seed, hseed, h⟩ := bind_eq_ok_iff.1 h
  obtain ⟨policy, -, h⟩ := bind_eq_ok_iff.1 h
  obtain ⟨budget, hbudget, h⟩ := bind_eq_ok_iff.1 h
  obtain ⟨atoms, hatoms, h⟩ := bind_eq_ok_iff.1 h
  obtain ⟨retries, hretries, h⟩ := bind_eq_ok_iff.1 h
  obtain ⟨oracle, -, h⟩ := bind_eq_ok_iff.1 h
  obtain ⟨dedupe, -, h⟩ := bind_eq_ok_iff.1 h
  obtain ⟨package, -, h⟩ := bind_eq_ok_iff.1 h
  obtain ⟨output, -, h⟩ := bind_eq_ok_iff.1 h
  obtain ⟨kilobytes, hkilobytes, h⟩ := bind_eq_ok_iff.1 h
  obtain ⟨parallel, hparallel, h⟩ := bind_eq_ok_iff.1 h
  obtain ⟨ignore, -, h⟩ := bind_eq_ok_iff.1 h
  obtain rfl := Except.ok.inj h
  intro pair hpair
  simp only [integers, List.mem_cons, List.not_mem_nil, or_false] at hpair
  rcases hpair with rfl | rfl | rfl | rfl | rfl | rfl
  · exact IntegerOption.within_of_read hseed
  · exact IntegerOption.within_of_read hbudget
  · exact IntegerOption.within_of_read hatoms
  · exact IntegerOption.within_of_read hretries
  · exact IntegerOption.within_of_read hkilobytes
  · exact IntegerOption.within_of_read hparallel

/-- The configuration of a project is within the bounds, whatever its option file holds. -/
theorem inBounds_load (h : load tree project file = .ok config) : config.InBounds := by
  rw [load] at h
  split at h
  · cases h
  · obtain ⟨ini, -, h⟩ := bind_eq_ok_iff.1 h
    exact inBounds_ofIni h
  · split_ifs at h
    exact inBounds_ofIni h

/-- Where only the seed is changed, only the seed has to be looked at. -/
theorem InBounds.changed_iff (h : config.InBounds)
    (hrest : changed.integers.tail = config.integers.tail) :
    changed.InBounds ↔ seedOption.Within changed.synthesis.seed := by
  constructor
  · intro hchanged
    exact hchanged.integers (seedOption, changed.synthesis.seed) List.mem_cons_self
  · intro hseed
    refine ⟨fun pair hpair => ?_, listed_choices changed⟩
    rcases List.mem_cons.1 hpair with rfl | hpair
    · exact hseed
    · have hmem : pair ∈ config.integers.tail := hrest ▸ hpair
      exact h.integers pair (List.mem_of_mem_tail hmem)

end Config

/-! ### The environment -/

section Environment

variable {environment : Environment} {environments : List Environment} {tree : FileTree}
  {cache : SettingsCache}
  {config : Config}

/-- The seed that an environment sets, if it sets one, is within the bounds of its option. -/
def Environment.SeedWithin (environment : Environment) : Prop :=
  ∀ seed ∈ Text.integer? (environment.seed.getD ""), Config.seedOption.Within seed

/-- The configuration that an environment asks for is that of the project but for the seed. -/
theorem Environment.config_eq_ok (h : environment.config tree = .ok config) :
    ∃ loaded, Config.load tree (Path.ofString (environment.project.getD "")) none = .ok loaded ∧
      config.integers.tail = loaded.integers.tail ∧
      config.synthesis.seed = (Text.integer? (environment.seed.getD "")).getD
        loaded.synthesis.seed := by
  unfold Environment.config at h
  dsimp only at h
  by_cases hproject : environment.project.getD "" = ""
  · rw [if_pos hproject] at h
    cases h
  rw [if_neg hproject] at h
  obtain ⟨loaded, hloaded, h⟩ := bind_eq_ok_iff.1 h
  refine ⟨loaded, mapError_eq_ok_iff.1 hloaded, ?_⟩
  by_cases hseed : environment.seed.getD "" = ""
  · rw [if_pos hseed] at h
    obtain rfl := Except.ok.inj h
    have hnone : Text.integer? "" = none := by decide
    rw [hseed, hnone]
    exact ⟨rfl, rfl⟩
  · rw [if_neg hseed] at h
    cases hinteger : Text.integer? (environment.seed.getD "") with
    | none =>
      rw [hinteger] at h
      cases h
    | some seed =>
      rw [hinteger] at h
      obtain rfl := Except.ok.inj h
      exact ⟨rfl, rfl⟩

/-- The configuration that an environment asks for is within the bounds exactly if the seed that it
sets is. -/
theorem Environment.inBounds_iff (h : environment.config tree = .ok config) :
    config.InBounds ↔ environment.SeedWithin := by
  obtain ⟨loaded, hloaded, hrest, hseed⟩ := Environment.config_eq_ok h
  have hbounds := Config.inBounds_load hloaded
  rw [hbounds.changed_iff hrest, hseed, Environment.SeedWithin]
  cases Text.integer? (environment.seed.getD "") with
  | none =>
    refine iff_of_true ?_ nofun
    exact hbounds.integers (Config.seedOption, loaded.synthesis.seed) List.mem_cons_self
  | some seed => simp

/-- The caches that loads leave behind, with the environments of the loads since the cache was
empty, the last one first. -/
inductive SettingsCache.History : List Environment → SettingsCache → Prop
  | empty : History [] none
  | load (environment : Environment) (tree : FileTree) {environments : List Environment}
      {cache : SettingsCache} :
      History environments cache → History (environment :: environments)
        (cache.load environment tree).2

/-- A load gives what the cache holds, or else what the environment asks for; and that is in the
cache behind it. -/
theorem SettingsCache.load_cases (cache : SettingsCache) (environment : Environment)
    (tree : FileTree) :
    ((∃ config, cache = some config) ∧ (cache.load environment tree).2 = cache ∧
        ∀ config, (cache.load environment tree).1 = .ok config → cache = some config) ∨
      (cache.load environment tree).1 = environment.config tree ∧
        ∀ config, (cache.load environment tree).2 = some config →
          environment.config tree = .ok config := by
  cases cache with
  | some held =>
    refine Or.inl ⟨⟨held, rfl⟩, rfl, fun config h => ?_⟩
    exact congrArg some (Except.ok.inj h)
  | none =>
    refine Or.inr ?_
    simp only [SettingsCache.load]
    cases environment.config tree with
    | ok found => exact ⟨rfl, fun config h => congrArg Except.ok (Option.some.inj h)⟩
    | error error => exact ⟨rfl, fun config h => nomatch h⟩

/-- What a cache holds was asked for by one of the environments that it was loaded in. -/
theorem SettingsCache.History.exists_source (h : History environments (some config)) :
    ∃ source ∈ environments, ∃ tree, source.config tree = .ok config := by
  generalize hcache : some config = cache at h
  induction h with
  | empty => cases hcache
  | @load environment tree environments cache hbefore ih =>
    rcases cache.load_cases environment tree with ⟨-, hkept, -⟩ | ⟨-, hfilled⟩
    · obtain ⟨source, hsource, hconfig⟩ := ih (hcache.trans hkept)
      exact ⟨source, List.mem_cons_of_mem environment hsource, hconfig⟩
    · exact ⟨environment, List.mem_cons_self, tree, hfilled config hcache.symm⟩

/-- What a load gives was asked for by the environment of this load or of one before. -/
theorem SettingsCache.History.exists_source_load (h : History environments cache)
    (hload : (cache.load environment tree).1 = .ok config) :
    ∃ source ∈ environment :: environments, ∃ tree, source.config tree = .ok config := by
  rcases cache.load_cases environment tree with ⟨-, -, hheld⟩ | ⟨hasked, -⟩
  · obtain rfl := hheld config hload
    obtain ⟨source, hsource, hconfig⟩ := h.exists_source
    exact ⟨source, List.mem_cons_of_mem environment hsource, hconfig⟩
  · exact ⟨environment, List.mem_cons_self, tree, hasked ▸ hload⟩

end Environment

/-! ### The command line -/

namespace CommandLine

variable {tree : FileTree} {project : Path} {file : Option Path} {overrides : Overrides}
  {config : Config}

/-- The configuration of a run is that of the project but for the seed and what has no bounds. -/
theorem configure_eq_ok (h : configure tree project file overrides = .ok config) :
    ∃ loaded, Config.load tree project file = .ok loaded ∧
      config.integers.tail = loaded.integers.tail ∧
      config.synthesis.seed = overrides.seed.getD loaded.synthesis.seed := by
  obtain ⟨loaded, hloaded, h⟩ := bind_eq_ok_iff.1 h
  obtain ⟨policy, -, h⟩ := bind_eq_ok_iff.1 h
  obtain ⟨oracle, -, h⟩ := bind_eq_ok_iff.1 h
  obtain rfl := Except.ok.inj h
  exact ⟨loaded, hloaded, rfl, rfl⟩

theorem inBounds_configure_iff (h : configure tree project file overrides = .ok config) :
    config.InBounds ↔ ∀ seed ∈ overrides.seed, Config.seedOption.Within seed := by
  obtain ⟨loaded, hloaded, hrest, hseed⟩ := configure_eq_ok h
  have hbounds := Config.inBounds_load hloaded
  rw [hbounds.changed_iff hrest, hseed]
  cases overrides.seed with
  | none =>
    refine iff_of_true ?_ nofun
    exact hbounds.integers (Config.seedOption, loaded.synthesis.seed) List.mem_cons_self
  | some seed => simp

end CommandLine

/-! ### Both -/

/-- **A configuration is within the bounds of its options exactly if the seed that was set for it
outside the option file is.** The option file alone always keeps them. In the environment it counts
what was set when the cache was filled. -/
theorem effective_inBounds {environments : List Environment} {cache : SettingsCache}
    (hcache : SettingsCache.History environments cache) (environment : Environment)
    (tree : FileTree) (project : Path)
    (file : Option Path) (overrides : CommandLine.Overrides) (config : Config) :
    (Config.load tree project file = .ok config → config.InBounds) ∧
    ((cache.load environment tree).1 = .ok config →
      ∃ source ∈ environment :: environments, (∃ tree, source.config tree = .ok config) ∧
        (config.InBounds ↔ source.SeedWithin)) ∧
    (CommandLine.configure tree project file overrides = .ok config →
      (config.InBounds ↔ ∀ seed ∈ overrides.seed, Config.seedOption.Within seed)) := by
  refine ⟨Config.inBounds_load, fun h => ?_, CommandLine.inBounds_configure_iff⟩
  obtain ⟨source, hsource, found, hconfig⟩ := hcache.exists_source_load h
  exact ⟨source, hsource, ⟨found, hconfig⟩, Environment.inBounds_iff hconfig⟩

/-- A project with an option at its greatest value. -/
def parallelTree : FileTree where
  entries := [(["p"], .directory),
    (["p", "stge.ini"], .file (Utf8.encode "[files]\nparallel_limit = 64\n".toList))]

/-- An environment for this project with a seed. -/
def seedEnvironment (seed : String) : Environment := { project := some "/p", seed := some seed }

/-- A seed is taken when the cache is filled; behind that another one does not count. -/
theorem effective_inBounds_held :
    SettingsCache.History [seedEnvironment "7"]
      (SettingsCache.load none (seedEnvironment "7") parallelTree).2 ∧
      ∃ config, (SettingsCache.load (SettingsCache.load none (seedEnvironment "7") parallelTree).2
          (seedEnvironment "-5") parallelTree).1 = .ok config ∧
        config.synthesis.seed = 7 ∧ config.parallelLimit = 64 ∧ config.InBounds := by
  have hhistory : SettingsCache.History [seedEnvironment "7"]
      (SettingsCache.load none (seedEnvironment "7") parallelTree).2 := .load _ _ .empty
  have hrun : (SettingsCache.load (SettingsCache.load none (seedEnvironment "7") parallelTree).2
      (seedEnvironment "-5") parallelTree).1.map (fun config =>
        (config.synthesis.seed, config.parallelLimit))
        = .ok (7, 64) := by decide +kernel
  obtain ⟨config, hload, hfound⟩ := map_eq_ok_iff.1 hrun
  obtain ⟨hseed, hparallel⟩ := Prod.mk.inj hfound
  refine ⟨hhistory, config, hload, hseed, hparallel, ?_⟩
  have hall := effective_inBounds hhistory (seedEnvironment "-5") parallelTree
    (Path.ofString "/p") none {} config
  obtain ⟨source, -, ⟨tree, hsource⟩, hbounds⟩ := hall.2.1 hload
  -- the configuration has its seed from the environment that asked for it
  obtain ⟨loaded, hloaded, -, hset⟩ := Environment.config_eq_ok hsource
  refine hbounds.2 fun seed hinteger => ?_
  rw [Option.mem_def.1 hinteger, Option.getD_some] at hset
  obtain rfl : 7 = seed := hseed.symm.trans hset
  exact ⟨by decide, nofun⟩

/-- A negative seed passes from the environment and from the command line. -/
theorem effective_negativeSeed :
    (∃ config, (SettingsCache.load none (seedEnvironment "-5") parallelTree).1 = .ok config ∧
        config.synthesis.seed < Config.seedOption.least ∧ ¬config.InBounds) ∧
      ∃ config, CommandLine.configure parallelTree (Path.ofString "/p") none { seed := some (-5) } =
        .ok config ∧
        config.synthesis.seed < Config.seedOption.least ∧ ¬config.InBounds := by
  have hbelow : ∀ config : Config, config.synthesis.seed = -5 →
      config.synthesis.seed < Config.seedOption.least ∧ ¬config.InBounds := by
    intro config hseed
    have hless : config.synthesis.seed < Config.seedOption.least := by
      rw [hseed]
      decide
    refine ⟨hless, fun h => ?_⟩
    exact absurd (h.integers (Config.seedOption, config.synthesis.seed) List.mem_cons_self).1
      (Int.not_le.2 hless)
  have henvironment : (SettingsCache.load none (seedEnvironment "-5") parallelTree).1.map
    (·.synthesis.seed)
      = .ok (-5) := by decide +kernel
  have hcommand : (CommandLine.configure parallelTree (Path.ofString "/p") none
    { seed := some (-5) }).map
      (·.synthesis.seed) = .ok (-5) := by decide +kernel
  obtain ⟨asked, hasked, hseed⟩ := map_eq_ok_iff.1 henvironment
  obtain ⟨set, hset, hseed'⟩ := map_eq_ok_iff.1 hcommand
  exact ⟨⟨asked, hasked, hbelow asked hseed⟩, set, hset, hbelow set hseed'⟩

end BranchCover
