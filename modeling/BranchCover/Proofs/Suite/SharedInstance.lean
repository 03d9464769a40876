import BranchCover.Proofs.Suite.Grouping
import BranchCover.Proofs.Synthesis.Run
import BranchCover.Proofs.Text.Sorted

/-!
# The instance that a suite shares

The tests of the methods of a class share one instance, which the suite makes. Suites are found by a
package and a name from which the points are dropped, so two classes may meet in one suite, and then
the instance is of the class whose tests come first.

* `Target.Makes`: the tests of a function.
* `suiteFor`: the suite of the tests of a function.
* `OneClass`: no two classes meet in a suite.
* `shared_iff_oneClass`: the suites whose instance is of the class that each of their tests needs.
-/

namespace BranchCover.Synthesis

variable {settings : SynthesisSettings} {model : Model} {function : FunctionDecl} {target : Target}
  {branch : Branch}
  {test : TestCase}

/-! ### The tests of a function -/

/-- A test is made for a target. -/
def Target.Makes (target : Target) (test : TestCase) : Prop :=
  ∃ name kind values assertions notes, target.testCase name kind values assertions notes = test

theorem BranchTest.makes (h : BranchTest settings model target branch test) :
    target.Makes test := by
  cases h with
  | ofIf values truths _ _ h | ofValue value _ _ _ _ h | ofCase entry values _ _ _ _ h =>
    obtain ⟨assertions, -, h⟩ := bind_eq_ok_iff.1 h
    exact ⟨_, _, _, _, _, Except.ok.inj h⟩
  | ofElse _ _ _ h =>
    obtain ⟨values, -, h⟩ := bind_eq_ok_iff.1 h
    obtain ⟨assertions, -, h⟩ := bind_eq_ok_iff.1 h
    exact ⟨_, _, _, _, _, Except.ok.inj h⟩

theorem makes_basicTest (target : Target) (rng : Twister) : target.Makes (target.basicTest rng).1 :=
  ⟨_, _, _, _, _, rfl⟩

theorem FunctionTest.makes (h : FunctionTest settings model function target test) :
    target.Makes test := by
  cases h with
  | ofCall rng h => exact h ▸ makes_basicTest target rng
  | ofBranch branch _ h => exact h.makes

/-- A symbol of a package, apart from the one that makes mocks. -/
def isNamespaced (symbol : String) : Bool := symbol != mockSymbol && symbol.toList.contains '.'

/-- The package and the class of the suite for the tests of a function. -/
def suiteFor (model : Model) (defaultPackage : String) (function : FunctionDecl) :
    String × String :=
  (if function.package ≠ "" then function.package
    else match (Target.symbolsOf model function (ownerOf model function)).find? isNamespaced with
      | some symbol => Suite.namespaceOf symbol
      | none => defaultPackage,
   match ownerOf model function with
    | some owner => String.ofList (owner.localName.toList.filter (· != '.')) ++ "Test"
    | none => String.ofList (Text.capitalize function.name.toList) ++ "Test")

/-- A mock among the values of a test does not move it to another package. -/
theorem find?_requiredSymbols (htarget : IsTarget model function target) (h : target.Makes test) :
    test.requiredSymbols.find? isNamespaced =
      (Target.symbolsOf model function (ownerOf model function)).find? isNamespaced := by
  obtain ⟨name, kind, values, assertions, notes, rfl⟩ := h
  refine (Text.find?_sortedSet_append fun symbol hsymbol => ?_).trans ?_
  · split_ifs at hsymbol
    · obtain rfl := List.mem_singleton.1 hsymbol
      simp [isNamespaced]
    · cases hsymbol
  · rw [htarget.symbols]
    unfold Target.symbolsOf
    rw [Text.sortedSet_sortedSet]

/-- A test names the function that it is made for and the instance that it needs. -/
theorem Target.Makes.fields (htarget : IsTarget model function target) (h : target.Makes test) :
    test.package = function.package ∧ test.targetFunction = function.name ∧
      test.setup = (ownerOf model function).map Target.setupOf := by
  obtain ⟨name, kind, values, assertions, notes, rfl⟩ := h
  exact ⟨congrArg FunctionDecl.package htarget.function,
    congrArg FunctionDecl.name htarget.function, htarget.setup⟩

/-- All tests of a function belong to one suite. -/
theorem suiteKey_eq_suiteFor (htarget : IsTarget model function target) (h : target.Makes test)
    (defaultPackage : String) : Suite.suiteKey defaultPackage test =
      suiteFor model defaultPackage function := by
  obtain ⟨hpackage, hname, hsetup⟩ := h.fields htarget
  refine Prod.ext_iff.2 ⟨?_, ?_⟩
  · show Suite.packageFor test defaultPackage = (suiteFor model defaultPackage function).1
    have hsymbols := find?_requiredSymbols htarget h
    unfold isNamespaced at hsymbols
    simp only [Suite.packageFor, suiteFor, hpackage, hsymbols]
    rfl
  · show Suite.classNameFor test = (suiteFor model defaultPackage function).2
    simp only [Suite.classNameFor, suiteFor, hsetup, hname]
    cases ownerOf model function with
    | none => rfl
    | some owner => rfl

/-! ### The tested methods -/

/-- A method of a class that gets tests. -/
structure TestedMethod (model : Model) (function : FunctionDecl) (owner : ClassDecl) : Prop where
  mem : function ∈ model.functions
  testable : isTestable function (ownerOf model function) = true
  owner : ownerOf model function = some owner

theorem TestedMethod.containingClass {owner : ClassDecl} (h : TestedMethod model function owner) :
    function.containingClass = some owner.qualifiedName := by
  obtain ⟨name, hname, hfound⟩ := Option.bind_eq_some_iff.1 h.owner
  have hsame : owner.qualifiedName = name := by simpa using List.find?_some hfound
  rw [hname, hsame]

variable {result : SynthesisResult}

/-- The tests with an instance of their own are those of tested methods. -/
theorem exists_method_of_mem_synthesize (h : synthesize settings model = .ok result)
    (htest : test ∈ result.tests)
    {setup : SharedSetup} (hsetup : test.setup = some setup) (defaultPackage : String) :
    ∃ function owner, TestedMethod model function owner ∧ test.targetFunction = function.name ∧
      setup = Target.setupOf owner ∧ Suite.suiteKey defaultPackage test =
        suiteFor model defaultPackage function := by
  obtain ⟨function, hmem, htestable, target, htarget, horigin⟩ :=
    exists_origin_of_mem_synthesize h htest
  obtain ⟨-, hname, hneeds⟩ := horigin.makes.fields htarget
  rw [hneeds] at hsetup
  obtain ⟨owner, howner, rfl⟩ := Option.map_eq_some_iff.1 hsetup
  exact ⟨function, owner, ⟨hmem, htestable, howner⟩, hname, rfl,
    suiteKey_eq_suiteFor htarget horigin.makes defaultPackage⟩

/-- Each tested method has a test. -/
theorem TestedMethod.exists_mem_synthesize {owner : ClassDecl}
    (hmethod : TestedMethod model function owner)
    (h : synthesize settings model = .ok result) (defaultPackage : String) :
    ∃ test ∈ result.tests, test.setup = some (Target.setupOf owner) ∧
      Suite.suiteKey defaultPackage test = suiteFor model defaultPackage function := by
  obtain ⟨target, htarget, ⟨rng, htest⟩, -⟩ :=
    exists_target_synthesize h hmethod.mem hmethod.testable
  have hmakes := makes_basicTest target rng
  refine ⟨_, htest, ?_, suiteKey_eq_suiteFor htarget hmakes defaultPackage⟩
  rw [(hmakes.fields htarget).2.2, hmethod.owner]
  rfl

end BranchCover.Synthesis

namespace BranchCover.Suite

open Synthesis

variable {settings : SynthesisSettings} {model : Model} {result : SynthesisResult}
  {tests : List TestCase}
  {suite : Suite} {test : TestCase} {defaultPackage : String}

/-! ### The instance of a suite -/

/-- A test of a suite has the instance of a test that belongs to it. -/
theorem exists_given_of_mem (hsuite : suite ∈ group tests defaultPackage)
    (htest : test ∈ suite.tests) :
    ∃ given ∈ tests, suiteKey defaultPackage given = suite.key ∧ given.setup = test.setup ∧
      given.targetFunction = test.targetFunction := by
  obtain ⟨i, hi, rfl⟩ := List.getElem_of_mem htest
  have hall := (renaming_of_mem_group hsuite).unchanged
  have hi' : i < (testsFor tests defaultPackage suite.key).length := hall.length_eq ▸ hi
  obtain ⟨hmem, hkey⟩ := List.mem_filter.1 (List.getElem_mem hi')
  have hsame := hall.get hi' hi
  simp only [List.get_eq_getElem] at hsame
  refine ⟨_, hmem, by simpa using hkey, ?_, ?_⟩ <;> rw [hsame]

/-- A test that belongs to a suite has its instance there. -/
theorem exists_mem_of_given (hsuite : suite ∈ group tests defaultPackage) (htest : test ∈ tests)
    (hkey : suiteKey defaultPackage test = suite.key) :
      ∃ other ∈ suite.tests, other.setup = test.setup := by
  have hgiven : test ∈ testsFor tests defaultPackage suite.key :=
    List.mem_filter.2 ⟨htest, by simpa using hkey⟩
  obtain ⟨i, hi, rfl⟩ := List.getElem_of_mem hgiven
  have hall := (renaming_of_mem_group hsuite).unchanged
  have hi' : i < suite.tests.length := hall.length_eq ▸ hi
  have hsame := hall.get hi hi'
  simp only [List.get_eq_getElem] at hsame
  refine ⟨suite.tests[i], List.getElem_mem hi', ?_⟩
  rw [hsame]

/-- The instance of a suite is that of the first test that needs one. -/
theorem setup_of_mem_group (hsuite : suite ∈ group tests defaultPackage) :
    suite.setup = (testsFor tests defaultPackage suite.key).findSome? (·.setup) :=
  congrArg Suite.setup (mem_group_iff.1 hsuite).2

/-- No two classes meet in the suite of a package and a class name. -/
def OneClass (model : Model) (defaultPackage : String) (key : String × String) : Prop :=
  ∀ first owner second other, TestedMethod model first owner → TestedMethod model second other →
    suiteFor model defaultPackage first = key → suiteFor model defaultPackage second = key →
      owner.qualifiedName = other.qualifiedName

theorem shared_iff_oneClass (h : synthesize settings model = .ok result)
    (hsuite : suite ∈ group result.tests defaultPackage) :
    (∀ test ∈ suite.tests, ∀ setup ∈ test.setup,
      ∃ shared ∈ suite.setup, shared.qualifiedName = setup.qualifiedName) ↔
      OneClass model defaultPackage suite.key := by
  constructor
  · intro hshared first owner second other hfirst hsecond hfirstKey hsecondKey
    have hclass : ∀ {function owner}, TestedMethod model function owner →
        suiteFor model defaultPackage function = suite.key →
        ∃ shared ∈ suite.setup, shared.qualifiedName = owner.qualifiedName := by
      intro function owner hmethod hkey
      obtain ⟨test, htest, hsetup, htestKey⟩ := hmethod.exists_mem_synthesize h defaultPackage
      obtain ⟨renamed, hrenamed, hsame⟩ := exists_mem_of_given hsuite htest (htestKey.trans hkey)
      exact hshared renamed hrenamed _ (hsame.trans hsetup)
    obtain ⟨shared, hmem, hname⟩ := hclass hfirst hfirstKey
    obtain ⟨shared', hmem', hname'⟩ := hclass hsecond hsecondKey
    obtain rfl : shared = shared' := Option.some.inj (hmem.symm.trans hmem')
    rw [← hname, ← hname']
  · intro hone test htest setup hsetup
    obtain ⟨given, hgiven, hkey, hsame, -⟩ := exists_given_of_mem hsuite htest
    have hneeds : given.setup = some setup := hsame.trans hsetup
    -- some test of the suite needs an instance, so the suite has one, and it is that of a test
    have hsome : suite.setup.isSome = true := by
      rw [setup_of_mem_group hsuite, List.findSome?_isSome_iff]
      exact ⟨given, List.mem_filter.2 ⟨hgiven, by simpa using hkey⟩, by rw [hneeds]; rfl⟩
    obtain ⟨shared, hshared⟩ := Option.isSome_iff_exists.1 hsome
    have hfound := hshared
    rw [setup_of_mem_group hsuite] at hfound
    obtain ⟨first, hfirst, hfirstSetup⟩ := List.exists_of_findSome?_eq_some hfound
    obtain ⟨hfirstMem, hfirstKey⟩ := List.mem_filter.1 hfirst
    obtain ⟨function, owner, hmethod, -, rfl, hfor⟩ :=
      exists_method_of_mem_synthesize h hgiven hneeds defaultPackage
    obtain ⟨function', owner', hmethod', -, rfl, hfor'⟩ :=
      exists_method_of_mem_synthesize h hfirstMem hfirstSetup defaultPackage
    refine ⟨_, hshared, hone function' owner' function owner hmethod' hmethod ?_
      (hfor.symm.trans hkey)⟩
    exact hfor'.symm.trans (by simpa using hfirstKey)

/-- **The instance of a suite is of the class that each of its tests needs, which is the class that
declares the tested method, exactly if no two classes meet in the suite.** -/
theorem sharedInstance_iff (h : synthesize settings model = .ok result)
    (hsuite : suite ∈ group result.tests defaultPackage) :
    ((∀ test ∈ suite.tests, ∀ setup ∈ test.setup,
      ∃ shared ∈ suite.setup, shared.qualifiedName = setup.qualifiedName) ↔
      OneClass model defaultPackage suite.key) ∧
    ∀ test ∈ suite.tests, ∀ setup ∈ test.setup, ∃ function owner,
      TestedMethod model function owner ∧
      test.targetFunction = function.name ∧
      function.containingClass = some setup.qualifiedName := by
  refine ⟨shared_iff_oneClass h hsuite, fun test htest setup hsetup => ?_⟩
  obtain ⟨given, hgiven, -, hsame, htarget⟩ := exists_given_of_mem hsuite htest
  obtain ⟨function, owner, hmethod, hname, rfl, -⟩ :=
    exists_method_of_mem_synthesize h hgiven (hsame.trans hsetup) defaultPackage
  exact ⟨function, owner, hmethod, htarget.symm.trans hname, hmethod.containingClass⟩

/-! ### Examples -/

/-- A class of the package `demo`. -/
def demoClass (qualifiedName : String) : ClassDecl where
  name := qualifiedName
  qualifiedName
  file := "a.kt"
  line := 1
  endLine := 3
  scope := Scope.ofClass qualifiedName
  package := "demo"

/-- A method without parameters of a class of the package `demo`. -/
def demoMethod (className name : String) : FunctionDecl where
  name
  qualifiedName := className ++ "." ++ name
  file := "a.kt"
  line := 2
  endLine := 2
  scope := Scope.ofMethod className name
  containingClass := some className
  package := "demo"

/-- A model with some methods, each given by its class and its name. -/
def demoModel (methods : List (String × String)) : Model where
  classes := methods.map fun method => demoClass method.1
  functions := methods.map fun method => demoMethod method.1 method.2

/-- The tests of two methods of a nested class share an instance of it. -/
theorem sharedInstance_iff_nested :
    ∃ result suite, synthesize {} (demoModel [("demo.Outer.Inner", "f"),
      ("demo.Outer.Inner", "g")]) = .ok result ∧
      suite ∈ group result.tests "generated" ∧ suite.tests.map (·.name) = ["testF", "testG"] ∧
      ∀ test ∈ suite.tests, ∀ setup ∈ test.setup,
        ∃ shared ∈ suite.setup, shared.qualifiedName = setup.qualifiedName := by
  have hnames : (synthesize {} (demoModel [("demo.Outer.Inner", "f"),
    ("demo.Outer.Inner", "g")])).map
      (fun result => (group result.tests "generated").map fun suite => suite.tests.map (·.name)) =
        .ok [["testF", "testG"]] := by decide +kernel
  obtain ⟨result, hresult, hnames⟩ := map_eq_ok_iff.1 hnames
  obtain ⟨suite, hsuite⟩ : ∃ suite, group result.tests "generated" = [suite] :=
    List.length_eq_one_iff.1 (by simpa using congrArg List.length hnames)
  have hmem : suite ∈ group result.tests "generated" := by simp [hsuite]
  refine ⟨result, suite, hresult, hmem, by simpa [hsuite] using hnames, ?_⟩
  refine (sharedInstance_iff hresult hmem).1.2 fun first owner second other hfirst hsecond _ _ => ?_
  have hclass : ∀ function ∈ (demoModel [("demo.Outer.Inner", "f"),
    ("demo.Outer.Inner", "g")]).functions,
      function.containingClass = some "demo.Outer.Inner" := by decide
  have howner := hfirst.containingClass.symm.trans (hclass first hfirst.mem)
  have hother := hsecond.containingClass.symm.trans (hclass second hsecond.mem)
  exact Option.some.inj (howner.trans hother.symm)

/-- Without its point the nested class `Outer.Inner` has the name of the class `OuterInner`, so the
tests of both share an instance of the first. -/
theorem sharedInstance_meeting :
    ∃ result suite, synthesize {} (demoModel [("demo.Outer.Inner", "f"),
      ("demo.OuterInner", "g")]) = .ok result ∧
      suite ∈ group result.tests "generated" ∧
      ∃ test ∈ suite.tests, ∃ setup ∈ test.setup,
        ∀ shared ∈ suite.setup, shared.qualifiedName ≠ setup.qualifiedName := by
  have hsetups : (synthesize {} (demoModel [("demo.Outer.Inner", "f"),
    ("demo.OuterInner", "g")])).map
      (fun result => (group result.tests "generated").any fun suite => suite.tests.any fun test =>
        test.setup.any fun setup => suite.setup.all fun shared =>
          shared.qualifiedName != setup.qualifiedName) = .ok true := by decide +kernel
  obtain ⟨result, hresult, hany⟩ := map_eq_ok_iff.1 hsetups
  obtain ⟨suite, hsuite, hany⟩ := List.any_eq_true.1 hany
  obtain ⟨test, htest, hany⟩ := List.any_eq_true.1 hany
  obtain ⟨setup, hsetup, hall⟩ := (Option.any_eq_true _ _).1 hany
  refine ⟨result, suite, hresult, hsuite, test, htest, setup, hsetup, fun shared hshared => ?_⟩
  have hother := (Option.all_eq_true _ _).1 hall shared hshared
  simpa using hother

end BranchCover.Suite
