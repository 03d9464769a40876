import BranchCover.CommandLine.Basic
import BranchCover.Proofs.Except
import BranchCover.Proofs.Project.FileTree
import BranchCover.Proofs.Project.Interpolation

/-!
# Wrong configurations

A configuration that is wrong is reported, and the run ends with a code of its own. What goes wrong
before an option can be looked at is not: the bytes of the option file are no text, its lines are no
options, or a value refers to what is not there.

* `OptionRule`, `Config.rules`: the options in the order in which they are read, with the values
  that they may have.
* `Verdict`: what reading an option gives.
* `InOrder`, `reported_ofIni_iff`: an option whose value cannot be put together is not met before
  one that is wrong.
* `Orderly`, `Accessible`: the option files with which a run has a configuration or ends with the
  code for a wrong one.
* `configure_reported`: these and no others.
-/

namespace BranchCover

/-- An option with the values that it may have, as they stand in the file. -/
structure OptionRule where
  heading : String
  name : String
  admits : String → Prop

namespace OptionRule

/-- The value of an option can be put together, if there is one. -/
def Legible (rule : OptionRule) (ini : Ini) : Prop :=
  rule.heading ∈ ini.sections → ∀ value, ini.raw? rule.heading rule.name = some value →
    Ini.Resolves (ini.raw? rule.heading) Ini.maxDepth value

/-- An option has no value, or one that it may have. -/
def Holds (rule : OptionRule) (ini : Ini) : Prop :=
  ∃ found, ini.get? rule.heading rule.name = .ok found ∧ ∀ raw, found = some raw → rule.admits raw

theorem legible_iff {rule : OptionRule} {ini : Ini} :
    rule.Legible ini ↔ Returns (ini.get? rule.heading rule.name) := (Ini.returns_get?_iff ..).symm

/-- An option that may have any value. -/
def any (heading name : String) : OptionRule := { heading, name, admits := fun _ => True }

end OptionRule

/-- An integer within the bounds of an option. -/
def IntegerOption.Admits (option : IntegerOption) (raw : String) : Prop :=
  ∃ value, Text.integer? raw = some value ∧ option.least ≤ value ∧
    ∀ greatest, option.greatest = some greatest → value ≤ greatest

/-- One of the values of an option, with blanks around it. -/
def ChoiceOption.Admits {α : Type} (option : ChoiceOption α) (raw : String) : Prop :=
  ∃ choice ∈ option.choices, option.text choice = trimmed raw

/-- An integer option with its values. -/
def IntegerOption.rule (option : IntegerOption) : OptionRule :=
  { heading := option.heading, name := option.name, admits := option.Admits }

/-- An option that is one of a few values, with them. -/
def ChoiceOption.rule {α : Type} (option : ChoiceOption α) : OptionRule :=
  { heading := option.heading, name := option.name, admits := option.Admits }

/-! ### Reading an option -/

/-- What reading an option gives: a value if the option holds, and otherwise an error of the
configuration, unless the value cannot be put together. -/
inductive Verdict {α : Type} (rule : OptionRule) (ini : Ini) : Except LoadError α → Prop
  | value (a : α) : rule.Holds ini → Verdict rule ini (.ok a)
  | refusal (error : ConfigError) :
      rule.Legible ini → ¬rule.Holds ini → Verdict rule ini (.error (.config error))
  | failure (error : IniError) : ¬rule.Legible ini → Verdict rule ini (.error (.ini error))

section Verdicts

variable {α : Type} {ini : Ini}

/-- What reading an option gives, from what is done with its value. -/
theorem Verdict.of_get? (rule : OptionRule) {next : Option String → Except LoadError α}
    (hnone : ∃ a, next none = .ok a)
    (hsome : ∀ raw, (rule.admits raw ∧ ∃ a, next (some raw) = .ok a) ∨
      (¬rule.admits raw ∧ ∃ error, next (some raw) = .error (.config error))) :
    Verdict rule ini ((ini.get? rule.heading rule.name).mapError LoadError.ini >>= next) := by
  cases hget : ini.get? rule.heading rule.name with
  | error error =>
    refine .failure error ?_
    rw [OptionRule.legible_iff, hget]
    exact not_returns_error error
  | ok found =>
    have hlegible : rule.Legible ini := OptionRule.legible_iff.2 ⟨found, hget⟩
    cases found with
    | none =>
      obtain ⟨a, ha⟩ := hnone
      have hholds : rule.Holds ini := ⟨none, hget, nofun⟩
      simpa only [Except.mapError, ok_bind, ha] using Verdict.value a hholds
    | some raw =>
      rcases hsome raw with ⟨hadmits, a, ha⟩ | ⟨hadmits, error, herror⟩
      · have hholds : rule.Holds ini := ⟨some raw, hget, fun _ h => Option.some.inj h ▸ hadmits⟩
        simpa only [Except.mapError, ok_bind, ha] using Verdict.value a hholds
      · have hholds : ¬rule.Holds ini := by
          rintro ⟨found, hfound, hall⟩
          obtain rfl := Except.ok.inj (hget.symm.trans hfound)
          exact hadmits (hall raw rfl)
        simpa only [Except.mapError, ok_bind, herror] using Verdict.refusal error hlegible hholds

/-- A value within the bounds is taken as it is, and no other. -/
theorem IntegerOption.check_cases (option : IntegerOption) (value : Int) :
    (option.check value = .ok value ∧
        option.least ≤ value ∧ ∀ greatest, option.greatest = some greatest → value ≤ greatest) ∨
      ∃ error, option.check value = .error error ∧
        ¬(option.least ≤ value ∧ ∀ greatest, option.greatest = some greatest →
          value ≤ greatest) := by
  rw [IntegerOption.check]
  split_ifs with hleast
  · exact Or.inr ⟨_, rfl, fun h => absurd h.1 (Int.not_le.2 hleast)⟩
  · cases hbound : option.greatest with
    | none => exact Or.inl ⟨rfl, Int.not_lt.1 hleast, nofun⟩
    | some greatest =>
      by_cases hgreatest : greatest < value
      · exact Or.inr ⟨_, if_pos hgreatest,
          fun h => absurd (h.2 greatest rfl) (Int.not_le.2 hgreatest)⟩
      · exact Or.inl ⟨if_neg hgreatest, Int.not_lt.1 hleast,
          fun _ h => Option.some.inj h ▸ Int.not_lt.1 hgreatest⟩

/-- An integer option whose default is within its bounds is read by its rule. -/
theorem IntegerOption.verdict {option : IntegerOption}
    (hdefault : option.check option.default = .ok option.default)
    (ini : Ini) : Verdict option.rule ini (option.read ini) := by
  refine Verdict.of_get? option.rule ⟨option.default, ?_⟩ fun raw => ?_
  · simp only [hdefault, Except.mapError]
  · cases hvalue : Text.integer? raw with
    | none =>
      refine Or.inr ⟨?_, .notInteger option.heading option.name raw, by simp only [hvalue]; rfl⟩
      rintro ⟨value, h, -⟩
      rw [hvalue] at h
      cases h
    | some value =>
      rcases option.check_cases value with ⟨hcheck, hbounds⟩ | ⟨error, hcheck, hbounds⟩
      · exact Or.inl ⟨⟨value, hvalue, hbounds⟩, value,
          by simp only [hvalue, hcheck, Except.mapError]⟩
      · refine Or.inr ⟨?_, error, by simp only [hvalue, hcheck, Except.mapError]⟩
        rintro ⟨other, hother, h⟩
        obtain rfl := Option.some.inj (hvalue.symm.trans hother)
        exact hbounds h

theorem ChoiceOption.verdict (option : ChoiceOption α) (ini : Ini) :
    Verdict option.rule ini (option.read ini) := by
  refine Verdict.of_get? option.rule ⟨option.default, rfl⟩ fun raw => ?_
  cases hvalue : option.value? (trimmed raw) with
  | none =>
    refine Or.inr ⟨?_, _, by simp only [hvalue]; rfl⟩
    rintro ⟨choice, hmem, htext⟩
    simpa [htext] using List.find?_eq_none.1 hvalue choice hmem
  | some choice =>
    refine Or.inl ⟨⟨choice, List.mem_of_find?_eq_some hvalue, ?_⟩, choice,
      by simp only [hvalue]; rfl⟩
    simpa using List.find?_some hvalue

theorem Config.verdict_readText (ini : Ini) (heading name default : String) :
    Verdict (.any heading name) ini (Config.readText ini heading name default) :=
  Verdict.of_get? (.any heading name) ⟨default, rfl⟩ fun raw => Or.inl ⟨trivial, trimmed raw, rfl⟩

theorem Config.verdict_readFlag (ini : Ini) (heading name : String) (default : Bool) :
    Verdict (.any heading name) ini (Config.readFlag ini heading name default) :=
  Verdict.of_get? (.any heading name) ⟨default, rfl⟩ fun _ => Or.inl ⟨trivial, _, rfl⟩

end Verdicts

/-! ### Reading all options -/

/-- A computation gives a value or an error of the configuration. -/
def Reported {α : Type} (x : Except LoadError α) : Prop :=
  Returns x ∨ ∃ error, x = .error (.config error)

/-- No option is met whose value cannot be put together: each comes behind one that is wrong. -/
def InOrder (ini : Ini) (rules : List OptionRule) : Prop :=
  ∀ before rule after, rules = before ++ rule :: after → (∀ other ∈ before, other.Holds ini) →
    rule.Legible ini

section Reported

variable {α β : Type} {rule : OptionRule} {rules : List OptionRule} {ini : Ini}
  {x : Except LoadError α}
  {f : α → Except LoadError β}

theorem reported_ok (a : α) : Reported (.ok a) := Or.inl ⟨a, rfl⟩

theorem reported_config (error : ConfigError) :
    Reported (.error (.config error) : Except LoadError α) :=
  Or.inr ⟨error, rfl⟩

theorem reported_bind_of_reported (hf : ∀ a, Reported (f a)) : Reported (x >>= f) ↔ Reported x := by
  cases x with
  | ok a => exact iff_of_true (hf a) (reported_ok a)
  | error error => simp [Reported, bind, Except.bind]

theorem inOrder_nil (ini : Ini) : InOrder ini [] := by
  rintro before rule after h
  simp at h

/-- The rules behind a first one count only if it holds. -/
theorem inOrder_cons : InOrder ini (rule :: rules) ↔
    rule.Legible ini ∧ (rule.Holds ini → InOrder ini rules) := by
  constructor
  · intro h
    refine ⟨h [] rule rules rfl (by simp), fun hholds before other after hrules hbefore => ?_⟩
    exact h (rule :: before) other after (by rw [hrules, List.cons_append])
      (List.forall_mem_cons.2 ⟨hholds, hbefore⟩)
  · rintro ⟨hlegible, hrest⟩ before other after hrules hbefore
    cases before with
    | nil =>
      obtain ⟨rfl, -⟩ := List.cons.inj hrules
      exact hlegible
    | cons first before =>
      obtain ⟨rfl, rfl⟩ := List.cons.inj hrules
      obtain ⟨hholds, hbefore⟩ := List.forall_mem_cons.1 hbefore
      exact hrest hholds before other after rfl hbefore

/-- Reading one option more. -/
theorem Verdict.reported_bind_iff (h : Verdict rule ini x)
    (hf : ∀ a, Reported (f a) ↔ InOrder ini rules) :
    Reported (x >>= f) ↔ InOrder ini (rule :: rules) := by
  rw [inOrder_cons]
  cases h with
  | value a hholds =>
    have hlegible : rule.Legible ini := OptionRule.legible_iff.2 (hholds.imp fun _ h => h.1)
    rw [ok_bind, hf a]
    exact ⟨fun h => ⟨hlegible, fun _ => h⟩, fun h => h.2 hholds⟩
  | refusal error hlegible hholds =>
    exact iff_of_true (reported_config error) ⟨hlegible, fun h => absurd h hholds⟩
  | failure error hlegible =>
    refine iff_of_false ?_ fun h => hlegible h.1
    rintro (⟨_, ⟨⟩⟩ | ⟨_, ⟨⟩⟩)

end Reported

namespace Config

/-- The options in the order in which they are read. -/
def rules : List OptionRule :=
  [seedOption.rule, policyOption.rule, attemptBudgetOption.rule, maxExhaustiveAtomsOption.rule,
   elseRetryLimitOption.rule, oracleOption.rule, .any "synthesis" "dedupe_uses",
   .any "emission" "default_package", .any "emission" "output_dir", maxKilobytesOption.rule,
   parallelLimitOption.rule, .any "paths" "ignore_file"]

/-- **A wrong option is reported unless one before it cannot be put together.** -/
theorem reported_ofIni_iff (project : Path) (ini : Ini) : Reported (ofIni project ini) ↔
    InOrder ini rules :=
  (IntegerOption.verdict rfl ini).reported_bind_iff fun _ =>
  (policyOption.verdict ini).reported_bind_iff fun _ =>
  (IntegerOption.verdict rfl ini).reported_bind_iff fun _ =>
  (IntegerOption.verdict rfl ini).reported_bind_iff fun _ =>
  (IntegerOption.verdict rfl ini).reported_bind_iff fun _ =>
  (oracleOption.verdict ini).reported_bind_iff fun _ =>
  (verdict_readFlag ini _ _ _).reported_bind_iff fun _ =>
  (verdict_readText ini _ _ _).reported_bind_iff fun _ =>
  (verdict_readText ini _ _ _).reported_bind_iff fun _ =>
  (IntegerOption.verdict rfl ini).reported_bind_iff fun _ =>
  (IntegerOption.verdict rfl ini).reported_bind_iff fun _ =>
  (verdict_readText ini _ _ _).reported_bind_iff fun _ =>
  iff_of_true (reported_ok _) (inOrder_nil ini)

/-! ### Reading a file -/

/-- The bytes of a file are text, its lines are options, and no option is met whose value cannot be
put together. -/
def Orderly (bytes : List UInt8) : Prop :=
  ∃ text ini, Utf8.decode bytes = .ok text ∧
    Ini.parse (Text.lines (Text.normalizeNewlines text)) = .ok ini ∧
    InOrder ini rules

/-- The option file that is looked for. -/
def optionFile (project : Path) (file : Option Path) : Path :=
  file.getD (project.join (Path.ofString fileName))

/-- The option file can be looked up, and if it can be read it is in order. -/
def Accessible (tree : FileTree) (project : Path) (file : Option Path) : Prop :=
  Returns (tree.find (optionFile project file)) ∧
    ∀ bytes, tree.read (optionFile project file) = .ok bytes → Orderly bytes

section Files

variable {tree : FileTree} {project : Path} {file : Option Path} {bytes : List UInt8} {ini : Ini}

theorem inOrder_empty (rules : List OptionRule) : InOrder {} rules := fun _ _ _ _ _ => nofun

/-- The options of a file whose bytes are text are those of its lines. -/
theorem iniOfBytes_of_decode {text : List Char} (h : Utf8.decode bytes = .ok text) :
    iniOfBytes bytes = (Ini.parse (Text.lines (Text.normalizeNewlines text))).mapError
      LoadError.ini := by
  have hlines : linesOf bytes = (Text.lines (Text.normalizeNewlines text), none) := by
    rw [linesOf, h]
  simp only [iniOfBytes, hlines, Ini.parse]
  cases (Text.lines (Text.normalizeNewlines text)).foldlM Ini.Reader.readLine {} with
  | error error => rfl
  | ok reader => rfl

/-- A file whose bytes are no text has no options, and that is not an error of the configuration. -/
theorem exists_of_decode_eq_error {error : Utf8.DecodeError}
    (h : Utf8.decode bytes = .error error) :
    ∃ error, iniOfBytes bytes = .error error ∧ ∀ other, error ≠ .config other := by
  have hfailure : ∃ lines failure, linesOf bytes = (lines, some failure) := by
    rw [linesOf, h]
    simp only
    split_ifs
    · exact ⟨_, _, rfl⟩
    · exact ⟨_, _, rfl⟩
  -- the lines before the break are read first, and may be no options themselves
  obtain ⟨lines, failure, hlines⟩ := hfailure
  simp only [iniOfBytes, hlines]
  cases lines.foldlM Ini.Reader.readLine {} with
  | error error => exact ⟨.ini error, rfl, fun _ => nofun⟩
  | ok reader => exact ⟨.encoding failure, rfl, fun _ => nofun⟩

theorem not_reported_of_error {α : Type} {error : LoadError} (h : ∀ other, error ≠ .config other) :
    ¬Reported (.error error : Except LoadError α) := by
  rintro (hreturns | ⟨other, hother⟩)
  · exact not_returns_error error hreturns
  · exact h other (Except.error.inj hother)

/-- The options of a file give a configuration or an error of one exactly if the file is in
order. -/
theorem reported_of_bytes_iff (project : Path) (bytes : List UInt8) :
    Reported (iniOfBytes bytes >>= ofIni project) ↔ Orderly bytes := by
  rw [Orderly]
  cases hdecode : Utf8.decode bytes with
  | error error =>
    obtain ⟨failure, hfailure, hconfig⟩ := exists_of_decode_eq_error hdecode
    rw [hfailure]
    refine iff_of_false (not_reported_of_error hconfig) ?_
    rintro ⟨_, _, ⟨⟩, -⟩
  | ok text =>
    rw [iniOfBytes_of_decode hdecode]
    cases hparse : Ini.parse (Text.lines (Text.normalizeNewlines text)) with
    | error error =>
      refine iff_of_false (not_reported_of_error (fun _ => nofun)) ?_
      rintro ⟨_, _, ⟨⟩, hini, -⟩
      rw [hparse] at hini
      cases hini
    | ok ini =>
      refine (reported_ofIni_iff project ini).trans ⟨fun h => ⟨text, ini, rfl, hparse, h⟩, ?_⟩
      rintro ⟨_, other, ⟨⟩, hother, h⟩
      obtain rfl := Except.ok.inj (hparse.symm.trans hother)
      exact h

theorem find_of_read {path : Path} (h : tree.read path = .ok bytes) :
    tree.find path = .ok (some (.file bytes)) := by
  obtain ⟨place, hplace, hentry⟩ := FileTree.read_eq_ok_iff.1 h
  simp only [FileTree.find, hplace, hentry]

/-- **A project has a configuration or an error of one exactly if its option file is
accessible.** -/
theorem reported_load_iff (tree : FileTree) (project : Path) (file : Option Path) :
    Reported (load tree project file) ↔ Accessible tree project file := by
  rw [load, Accessible, optionFile]
  generalize file.getD (project.join (Path.ofString fileName)) = path
  cases hfind : tree.find path with
  | error error =>
    refine iff_of_false (not_reported_of_error (fun _ => nofun)) fun h => ?_
    exact not_returns_error error h.1
  | ok found =>
    cases found with
    | none =>
      -- what is not there is not read, either
      have hunread : ∀ bytes, tree.read path = .ok bytes → Orderly bytes := by
        intro bytes hbytes
        rw [find_of_read hbytes] at hfind
        cases hfind
      refine iff_of_true ?_ ⟨returns_ok _, hunread⟩
      split_ifs
      · exact reported_config _
      · exact (reported_ofIni_iff project {}).2 (inOrder_empty rules)
    | some entry =>
      rw [iniAt]
      cases hread : tree.read path with
      | error error =>
        exact iff_of_true ((reported_ofIni_iff project {}).2 (inOrder_empty rules))
          ⟨returns_ok _, nofun⟩
      | ok bytes =>
        refine (reported_of_bytes_iff project bytes).trans ⟨fun h => ⟨returns_ok _, ?_⟩,
          fun h => h.2 bytes rfl⟩
        rintro _ ⟨⟩
        exact h

end Files

end Config

/-! ### The command line -/

namespace CommandLine

theorem reported_chosen {α : Type} (option : ChoiceOption α) (current : α) (given : Option String) :
    Reported (chosen option current given) := by
  cases given with
  | none => exact reported_ok current
  | some text =>
    rw [chosen]
    cases option.value? text with
    | none => exact reported_config _
    | some value => exact reported_ok value

/-- What is wrong on the command line is an error of the configuration. -/
theorem reported_override (config : Config) (overrides : Overrides) :
    Reported (override config overrides) := by
  rw [override]
  refine (reported_bind_of_reported fun policy => ?_).2 (reported_chosen ..)
  exact (reported_bind_of_reported fun oracle => reported_ok _).2 (reported_chosen ..)

/-- The code for a wrong configuration is that of the errors of one. -/
theorem exitCode_loadFailure_iff {error : LoadError} :
    (loadFailure error).exitCode = configErrorCode ↔ ∃ other, error = .config other := by
  cases error with
  | config error => exact iff_of_true rfl ⟨error, rfl⟩
  | ini error => exact iff_of_false (by simp [loadFailure, Outcome.escaped, configErrorCode]) nofun
  | encoding error =>
    exact iff_of_false (by simp [loadFailure, Outcome.escaped, configErrorCode]) nofun
  | file error => exact iff_of_false (by simp [loadFailure, Outcome.escaped, configErrorCode]) nofun

/-- **A run has a configuration or ends with the code for a wrong one exactly if the option file is
accessible**, whatever the command line sets. -/
theorem configure_reported (tree : FileTree) (project : Path) (file : Option Path)
    (overrides : Overrides) :
    ((Returns (Config.load tree project file) ∨ ∃ error,
      Config.load tree project file = .error (.config error)) ↔
        Config.Accessible tree project file) ∧
      ((Returns (configure tree project file overrides) ∨
          ∃ error, configure tree project file overrides = .error error ∧
            (loadFailure error).exitCode = configErrorCode) ↔
        Config.Accessible tree project file) := by
  refine ⟨Config.reported_load_iff tree project file, ?_⟩
  have hreported : Reported (configure tree project file overrides) ↔
      Config.Accessible tree project file :=
    (reported_bind_of_reported fun config => reported_override config overrides).trans
      (Config.reported_load_iff tree project file)
  rw [← hreported, Reported]
  refine or_congr_right ?_
  constructor
  · rintro ⟨error, herror, hcode⟩
    obtain ⟨other, rfl⟩ := exitCode_loadFailure_iff.1 hcode
    exact ⟨other, herror⟩
  · rintro ⟨other, herror⟩
    exact ⟨_, herror, rfl⟩

/-- A project with a percent sign in its option file. -/
def percentTree : FileTree where
  entries := [(["p"], .directory),
    (["p", "stge.ini"], .file (Utf8.encode "[synthesis]\nseed = 5%\n".toList))]

/-- A percent sign ends the run in another way. -/
theorem configure_escapes :
    Config.load percentTree (Path.ofString "/p") none = .error (.ini .badReference) ∧
      configure percentTree (Path.ofString "/p") none {} = .error (.ini .badReference) ∧
      (loadFailure (.ini .badReference)).exitCode = 1 ∧
      (loadFailure (.ini .badReference)).failure = some (.options .badReference) := by
  decide +kernel

end CommandLine

end BranchCover
