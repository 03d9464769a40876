import BranchCover.Proofs.DataFlow.Firsts
import BranchCover.Suite.Basic
import Mathlib.Data.List.Forall2
import Mathlib.Data.List.Nodup

/-!
# Tests in suites

Grouping puts each test into one suite and loses none. Within a suite a test may get another name:
the first of its candidates, which never run out, that no test before it has.

* `candidate`: the names that a test may get, in their order.
* `FirstFree`: the first candidate that is not used.
* `getElem?_renameAll`: the name of a test depends on those before it.
* `group_conserves`: the suites of a list of tests as a whole.
-/

namespace BranchCover.Suite

/-! ### Fresh names -/

/-- The names that a test may get: its own, and then with the numbers from two on. -/
def candidate (name : String) : ℕ → String
  | 0 => name
  | k + 1 => name ++ toString (k + 2)

/-- A candidate is not used, and all before it are. -/
def FirstFree (used : List String) (name : String) (k : ℕ) : Prop :=
  candidate name k ∉ used ∧ ∀ j < k, candidate name j ∈ used

variable {used : List String} {name : String} {k : ℕ}

theorem nameCandidates_eq (name : String) (count : ℕ) :
    nameCandidates name count = (List.range (count + 1)).map (candidate name) := by
  rw [nameCandidates, List.range_succ_eq_map, List.map_cons, List.map_map]
  rfl

theorem candidate_injective (name : String) : Function.Injective (candidate name) := by
  have hnumber : ∀ k, name ≠ candidate name (k + 1) := by
    intro k h
    have hlength := congrArg String.length h
    rw [candidate, String.length_append] at hlength
    have hempty : toString (k + 2) = "" := String.length_eq_zero_iff.1 (by omega)
    exact Nat.repr_ne_empty hempty
  intro i j h
  cases i with
  | zero =>
    cases j with
    | zero => rfl
    | succ j => exact absurd h (hnumber j)
  | succ i =>
    cases j with
    | zero => exact absurd h.symm (hnumber i)
    | succ j =>
      have hdigits : Nat.toDigits 10 (i + 2) = Nat.toDigits 10 (j + 2) :=
        String.ofList_injective ((String.append_right_inj name).1 h)
      have hnumbers := congrArg (Nat.ofDigitChars 10 · 0) hdigits
      simp only [Nat.ofDigitChars_ten_toDigits] at hnumbers
      omega

/-- One of the first candidates is not used if there is one more of them than there are used
names. -/
theorem exists_candidate_notMem (used : List String) (name : String) :
    ∃ k ≤ used.length, candidate name k ∉ used := by
  by_contra hall
  push Not at hall
  have hnodup : ((List.range (used.length + 1)).map (candidate name)).Nodup :=
    List.nodup_range.map (candidate_injective name)
  have hsubset : (List.range (used.length + 1)).map (candidate name) ⊆ used := by
    intro other hother
    obtain ⟨k, hk, rfl⟩ := List.mem_map.1 hother
    exact hall k (Nat.lt_succ_iff.1 (List.mem_range.1 hk))
  have hlength := hnodup.length_le_of_subset hsubset
  rw [List.length_map, List.length_range] at hlength
  omega

/-- A fresh name is the first candidate that is not used. -/
theorem exists_firstFree (used : List String) (name : String) :
    ∃ k, FirstFree used name k ∧ freshName used name = candidate name k := by
  obtain ⟨bound, hbound, hfree⟩ := exists_candidate_notMem used name
  have hsome : ((nameCandidates name used.length).find? fun other =>
      !used.contains other).isSome := by
    rw [List.find?_isSome]
    refine ⟨candidate name bound, ?_, by simpa using hfree⟩
    rw [nameCandidates_eq]
    exact List.mem_map_of_mem (List.mem_range.2 (by omega))
  obtain ⟨fresh, hfresh⟩ := Option.isSome_iff_exists.1 hsome
  obtain ⟨hunused, k, hk, hcandidate, hbefore⟩ := List.find?_eq_some_iff_getElem.1 hfresh
  simp only [nameCandidates_eq, List.getElem_map, List.getElem_range] at hcandidate hbefore
  subst hcandidate
  refine ⟨k, ⟨by simpa using hunused, fun j hj => by simpa using hbefore j hj⟩, ?_⟩
  rw [freshName, hfresh, Option.getD_some]

theorem freshName_notMem (used : List String) (name : String) : freshName used name ∉ used := by
  obtain ⟨k, hfree, hfresh⟩ := exists_firstFree used name
  rw [hfresh]
  exact hfree.1

/-- A name is kept exactly if it is not used. -/
theorem freshName_eq_self_iff : freshName used name = name ↔ name ∉ used := by
  constructor
  · intro h
    rw [← h]
    exact freshName_notMem used name
  · intro hname
    obtain ⟨k, hfree, hfresh⟩ := exists_firstFree used name
    cases k with
    | zero => exact hfresh
    | succ k => exact absurd (hfree.2 0 (Nat.succ_pos k)) hname

/-! ### Renamed tests -/

variable {tests : List TestCase} {test : TestCase}

/-- Renaming changes nothing but names. -/
theorem forall₂_renameAll (used : List String) (tests : List TestCase) :
    List.Forall₂ (fun given test => test = { given with name := test.name }) tests
      (renameAll used tests) := by
  induction tests generalizing used with
  | nil => exact .nil
  | cons test rest ih => exact .cons rfl (ih _)

/-- The name of a test is fresh behind the names of those before it. -/
theorem getElem?_renameAll (used : List String) (tests : List TestCase) (i : ℕ) :
    (renameAll used tests)[i]? = tests[i]?.map fun given =>
      { given with
        name := freshName ((((renameAll used tests).take i).map (·.name)).reverse ++
          used) given.name } := by
  induction tests generalizing used i with
  | nil => rfl
  | cons test rest ih =>
    rw [renameAll]
    cases i with
    | zero => rfl
    | succ i =>
      rw [List.getElem?_cons_succ, List.getElem?_cons_succ, ih]
      simp

theorem name_notMem_of_mem_renameAll (h : test ∈ renameAll used tests) : test.name ∉ used := by
  induction tests generalizing used with
  | nil => cases h
  | cons first rest ih =>
    rcases List.mem_cons.1 h with rfl | h
    · exact freshName_notMem used first.name
    · exact fun hused => ih h (List.mem_cons_of_mem _ hused)

theorem nodup_renameAll (used : List String) (tests : List TestCase) :
    ((renameAll used tests).map (·.name)).Nodup := by
  induction tests generalizing used with
  | nil => exact List.nodup_nil
  | cons first rest ih =>
    rw [renameAll, List.map_cons, List.nodup_cons]
    refine ⟨fun hmem => ?_, ih _⟩
    obtain ⟨test, htest, hname⟩ := List.mem_map.1 hmem
    exact name_notMem_of_mem_renameAll htest (hname ▸ List.mem_cons_self)

/-- Tests with names of their own: in their order, unchanged except for their names, and no two with
one name. Each keeps its own name unless a test before it has got it, and its name is the first
candidate that none before it has. -/
structure Renaming (given renamed : List TestCase) : Prop where
  unchanged : List.Forall₂ (fun test other =>
      other = { test with name := other.name }) given renamed
  nodup : (renamed.map (·.name)).Nodup
  kept : ∀ (i : ℕ) (test other : TestCase), given[i]? = some test → renamed[i]? = some other →
    (other.name = test.name ↔ test.name ∉ (renamed.take i).map (·.name))
  fresh : ∀ (i : ℕ) (test other : TestCase), given[i]? = some test → renamed[i]? = some other →
    ∃ k, FirstFree ((renamed.take i).map (·.name)) test.name k ∧ other.name = candidate test.name k

theorem renaming_renameAll (tests : List TestCase) : Renaming tests (renameAll [] tests) := by
  have hname : ∀ (i : ℕ) (test other : TestCase), tests[i]? = some test →
      (renameAll [] tests)[i]? = some other →
      other.name = freshName (((renameAll [] tests).take i).map (·.name)).reverse test.name := by
    intro i test other htest hother
    rw [getElem?_renameAll, htest, Option.map_some, List.append_nil] at hother
    exact congrArg TestCase.name (Option.some.inj hother).symm
  refine ⟨forall₂_renameAll [] tests, nodup_renameAll [] tests, ?_, ?_⟩
  · intro i test other htest hother
    rw [hname i test other htest hother, freshName_eq_self_iff, List.mem_reverse]
  · intro i test other htest hother
    obtain ⟨k, hfree, hfresh⟩ :=
      exists_firstFree (((renameAll [] tests).take i).map (·.name)).reverse test.name
    refine ⟨k, ?_, (hname i test other htest hother).trans hfresh⟩
    simpa only [FirstFree, List.mem_reverse] using hfree

/-! ### Suites -/

/-- The package and the class of a suite. -/
def key (suite : Suite) : String × String := (suite.package, suite.className)

/-- The tests that belong to a package and a class, in their order. -/
def testsFor (tests : List TestCase) (defaultPackage : String) (key : String × String) :
    List TestCase :=
  tests.filter fun test => suiteKey defaultPackage test == key

variable {defaultPackage : String} {suite : Suite}

theorem map_key_group (tests : List TestCase) (defaultPackage : String) :
    (group tests defaultPackage).map key =
      DataFlow.firsts (tests.map (suiteKey defaultPackage)) := by
  rw [group, List.map_map]
  exact List.map_id _

theorem mem_group_iff : suite ∈ group tests defaultPackage ↔
    suite.key ∈ tests.map (suiteKey defaultPackage) ∧
      suite = ofTests suite.key (testsFor tests defaultPackage suite.key) := by
  rw [group, List.mem_map]
  constructor
  · rintro ⟨key, hkey, rfl⟩
    exact ⟨DataFlow.mem_firsts.1 hkey, rfl⟩
  · rintro ⟨hkey, hsuite⟩
    exact ⟨suite.key, DataFlow.mem_firsts.2 hkey, hsuite.symm⟩

/-- A suite has the tests that belong to it, with names of their own. -/
theorem renaming_of_mem_group (h : suite ∈ group tests defaultPackage) :
    Renaming (testsFor tests defaultPackage suite.key) suite.tests := by
  have htests := congrArg Suite.tests (mem_group_iff.1 h).2
  rw [htests]
  exact renaming_renameAll _

theorem tests_ne_nil_of_mem_group (h : suite ∈ group tests defaultPackage) : suite.tests ≠ [] := by
  intro hnil
  obtain ⟨test, htest, hkey⟩ := List.mem_map.1 (mem_group_iff.1 h).1
  have hrenaming := (renaming_of_mem_group h).unchanged
  rw [hnil, List.forall₂_nil_right_iff] at hrenaming
  have hmem : test ∈ testsFor tests defaultPackage suite.key :=
    List.mem_filter.2 ⟨htest, by simp [hkey]⟩
  rw [hrenaming] at hmem
  cases hmem

/-- There is one suite for a test. -/
theorem existsUnique_suite (h : test ∈ tests) :
    ∃! suite, suite ∈ group tests defaultPackage ∧ suite.key = suiteKey defaultPackage test := by
  refine ⟨ofTests (suiteKey defaultPackage test)
    (testsFor tests defaultPackage (suiteKey defaultPackage test)),
    ⟨mem_group_iff.2 ⟨List.mem_map_of_mem h, rfl⟩, rfl⟩, ?_⟩
  rintro suite ⟨hsuite, hkey⟩
  rw [(mem_group_iff.1 hsuite).2, hkey]

/-- **The suites of a list of tests.** No two have the same package and class, and they stand in the
order in which these first appear. Each test belongs to one suite; and each suite has the tests that
belong to it, in their order, with names of their own. -/
theorem group_conserves (tests : List TestCase) (defaultPackage : String) :
    ((group tests defaultPackage).map key).Nodup ∧
      ((group tests defaultPackage).map key).Pairwise (fun first second =>
        (tests.map (suiteKey defaultPackage)).idxOf first <
          (tests.map (suiteKey defaultPackage)).idxOf second) ∧
      (∀ test ∈ tests, ∃! suite, suite ∈ group tests defaultPackage ∧
        suite.key = suiteKey defaultPackage test) ∧
      ∀ suite ∈ group tests defaultPackage,
        suite.tests ≠ [] ∧ Renaming (testsFor tests defaultPackage suite.key) suite.tests := by
  rw [map_key_group]
  exact ⟨DataFlow.nodup_firsts _, DataFlow.pairwise_idxOf_firsts _,
    fun test htest => existsUnique_suite htest,
    fun suite hsuite => ⟨tests_ne_nil_of_mem_group hsuite, renaming_of_mem_group hsuite⟩⟩

/-- A test of a function `f`. -/
def testNamed (name : String) : TestCase where
  name
  kind := .basic
  targetDeclaration := "f"
  targetFunction := "f"
  file := "a.kt"

/-- The number that a name gets may be the name of a test behind it, which then gets a number,
too. -/
theorem group_conserves_numbered :
    ∃ suite ∈ group [testNamed "a", testNamed "a", testNamed "a2"] "demo",
      suite.key = ("demo", "FTest") ∧
      suite.tests.map (·.name) = ["a", "a2", "a22"] ∧
      Renaming [testNamed "a", testNamed "a", testNamed "a2"] suite.tests := by
  obtain ⟨-, -, hone, hsuites⟩ := group_conserves [testNamed "a", testNamed "a",
    testNamed "a2"] "demo"
  obtain ⟨suite, ⟨hsuite, hkey⟩, -⟩ := hone (testNamed "a") List.mem_cons_self
  have hfor : testsFor [testNamed "a", testNamed "a",
    testNamed "a2"] "demo" (suiteKey "demo" (testNamed "a")) =
      [testNamed "a", testNamed "a", testNamed "a2"] := by decide
  have hrenaming := (hsuites suite hsuite).2
  rw [hkey, hfor] at hrenaming
  refine ⟨suite, hsuite, hkey.trans (by decide), ?_, hrenaming⟩
  rw [congrArg Suite.tests (mem_group_iff.1 hsuite).2, hkey, hfor]
  decide

end BranchCover.Suite
