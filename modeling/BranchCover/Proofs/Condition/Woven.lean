import BranchCover.Proofs.Condition.Decomposition

/-!
# What a condition is made of

Any text is taken apart, also one with literals and parentheses that nothing closes, and with
connectives at its ends or next to each other. White space aside, the text is its atoms in their
order, each behind the connective that joins it to the one before; what is left over are connectives
without an atom between them. A negation takes all that is behind it, so only the last atom can be
negated.

* `Woven`: a text that is made of atoms and connectives.
* `woven_scan`: what was read and what is left are made of the atoms that a scan finds.
* `decompose_woven`: the atoms of a text as a whole.
-/

namespace BranchCover.Condition

open Text

/-- An atom without blanks around it, which has a text unless it is negated. -/
structure Pruned (atom : Condition) : Prop where
  trimmed : trimmed atom.text = atom.text
  nonempty : atom.negated = false → atom.text ≠ ""

/-- A text without white space that is made of atoms and connectives, behind a connective. An atom
is marked with the connective before it. An atom that is not the last one has a connective behind it
and is not negated. -/
inductive Woven : Connective → List Condition → List Char → Prop
  | done {connective : Connective} : Woven connective [] []
  /-- A connective with no atom before it. -/
  | skip {connective next : Connective} {atoms : List Condition} {text : List Char}
      (hnext : next = .and ∨ next = .or) (hrest : Woven next atoms text) :
      Woven connective atoms (next.symbol ++ text)
  | last {atom : Condition} (hatom : Pruned atom) :
      Woven atom.connective [atom] (withoutBlanks atom.writtenAtom)
  | link {atom : Condition} {next : Connective} {atoms : List Condition} {text : List Char}
      (hatom : Pruned atom)
      (hpositive : atom.negated = false) (hnext : next = .and ∨ next = .or)
      (hrest : Woven next atoms text) :
      Woven atom.connective (atom :: atoms)
        (withoutBlanks atom.writtenAtom ++ (next.symbol ++ text))

variable {connective next : Connective} {atoms : List Condition} {read text : List Char}

/-! ### The atoms of a text -/

theorem Woven.pruned (h : Woven connective atoms text) : ∀ atom ∈ atoms, Pruned atom := by
  induction h with
  | done => simp
  | skip _ _ ih => exact ih
  | last hatom => simpa using hatom
  | link hatom _ _ _ ih => exact List.forall_mem_cons.2 ⟨hatom, ih⟩

/-- Behind a connective every atom is joined. -/
theorem Woven.joined (h : Woven connective atoms text)
    (hconnective : connective = .and ∨ connective = .or) :
    ∀ atom ∈ atoms, atom.connective = .and ∨ atom.connective = .or := by
  induction h with
  | done => simp
  | skip hnext _ ih => exact ih hnext
  | last => simpa using hconnective
  | link _ _ hnext _ ih => exact List.forall_mem_cons.2 ⟨hconnective, ih hnext⟩

/-- Every atom but the first is joined to the one before it. -/
theorem Woven.joined_tail (h : Woven connective atoms text) :
    ∀ atom ∈ atoms.tail, atom.connective = .and ∨ atom.connective = .or := by
  induction h with
  | done => simp
  | skip _ _ ih => exact ih
  | last => simp
  | link _ _ hnext hrest _ => exact hrest.joined hnext

/-- No atom but the last is negated. -/
theorem Woven.positive_dropLast (h : Woven connective atoms text) :
    ∀ atom ∈ atoms.dropLast, atom.negated = false := by
  induction h with
  | done => simp
  | skip _ _ ih => exact ih
  | last => simp
  | @link atom next atoms text _ hpositive _ _ ih =>
    cases atoms with
    | nil => simp
    | cons second rest => exact List.forall_mem_cons.2 ⟨hpositive, ih⟩

/-! ### The scan of a text -/

theorem connective?_eq_some {c d : Char} {depth : Int} (h : connective? c d depth = some next)
    (rest : List Char) :
    (next = .and ∨ next = .or) ∧ withoutBlanks (c :: d :: rest) =
      next.symbol ++ withoutBlanks rest := by
  unfold connective? at h
  split_ifs at h with hsame hand hor
  · obtain rfl := Option.some.inj h
    obtain ⟨-, rfl⟩ := hsame
    subst hand
    exact ⟨Or.inl rfl, rfl⟩
  · obtain rfl := Option.some.inj h
    obtain ⟨-, rfl⟩ := hsame
    subst hor
    exact ⟨Or.inr rfl, rfl⟩

/-- What was read becomes an atom, unless it is blank. -/
theorem closeAtom_cases (read : List Char) (connective : Connective) :
    closeAtom read connective = [] ∧ withoutBlanks read.reverse = [] ∨
      ∃ atom : Condition, closeAtom read connective = [atom] ∧ atom.connective = connective ∧
        atom.negated = false ∧ Pruned atom ∧
        withoutBlanks atom.writtenAtom = withoutBlanks read.reverse := by
  have htrim := withoutBlanks_trim read.reverse
  unfold closeAtom
  split
  · rename_i hblank
    rw [hblank] at htrim
    exact Or.inl ⟨rfl, htrim.symm⟩
  · rename_i htext
    refine Or.inr ⟨_, rfl, rfl, rfl, ⟨trimmed_ofList_trim _, fun _ hempty => htext ?_⟩, ?_⟩
    · have hchars := congrArg String.toList hempty
      rwa [String.toList_ofList, String.toList_empty] at hchars
    · rw [writtenAtom, if_neg (by simp), String.toList_ofList, htrim]

/-- The end of a text closes its last atom. -/
theorem woven_closeAtom (read : List Char) (connective : Connective) :
    Woven connective (closeAtom read connective) (withoutBlanks read.reverse) := by
  rcases closeAtom_cases read connective with ⟨hnone, hblank⟩ |
    ⟨atom, hatom, rfl, -, hpruned, hread⟩
  · rw [hnone, hblank]
    exact .done
  · rw [hatom, ← hread]
    exact .last hpruned

/-- A connective closes the atom before it. -/
theorem Woven.close (h : Woven next atoms text) (hnext : next = .and ∨ next = .or)
    (read : List Char)
    (connective : Connective) :
    Woven connective (closeAtom read connective ++ atoms)
      (withoutBlanks read.reverse ++ (next.symbol ++ text)) := by
  rcases closeAtom_cases read connective with ⟨hnone, hblank⟩ |
    ⟨atom, hatom, rfl, hpositive, hpruned, hread⟩
  · rw [hnone, hblank]
    exact .skip hnext h
  · rw [hatom, ← hread]
    exact .link hpruned hpositive hnext h

/-- A negation takes all that is behind it. -/
theorem woven_negation (hread : isAllBlank read = true) (connective : Connective)
    (rest : List Char) :
    Woven connective [{ text := String.ofList (trim rest), connective, negated := true }]
      (withoutBlanks (read.reverse ++ '!' :: rest)) := by
  let atom : Condition := { text := String.ofList (trim rest), connective, negated := true }
  have hatom : Pruned atom := ⟨trimmed_ofList_trim rest,
    fun hpositive => absurd hpositive (by simp [atom])⟩
  have hblank : withoutBlanks read.reverse = [] :=
    withoutBlanks_eq_nil fun c hc => List.all_eq_true.1 hread c (List.mem_reverse.1 hc)
  have htext : withoutBlanks (read.reverse ++ '!' :: rest) = withoutBlanks atom.writtenAtom := by
    rw [withoutBlanks_append, hblank, List.nil_append, writtenAtom, if_pos rfl,
      String.toList_ofList]
    show '!' :: withoutBlanks rest = '!' :: withoutBlanks (trim rest)
    rw [withoutBlanks_trim]
  rw [htext]
  exact .last hatom

/-- **What was read and what is left are made of the atoms that a scan finds**, wherever the scan
stands. -/
theorem woven_scan (read : List Char) (connective : Connective) (depth : Int) (quoting : Quoting)
    (text : List Char) :
    Woven connective (scan read connective depth quoting text)
      (withoutBlanks (read.reverse ++ text)) := by
  -- a character that is read moves from what is left to what was read
  have hmove : ∀ (read : List Char) (c : Char) (rest : List Char),
      (c :: read).reverse ++ rest = read.reverse ++ c :: rest := by simp
  fun_induction scan read connective depth quoting text with
  | case1 read connective =>
    rw [List.append_nil]
    exact woven_closeAtom read connective
  | case7 read connective depth c rest _ _ _ hnegation =>
    obtain ⟨rfl, -, hread⟩ := hnegation
    exact woven_negation hread connective rest
  | case8 read connective depth c =>
    rw [← List.reverse_cons]
    exact woven_closeAtom (c :: read) connective
  | case9 read connective depth c _ _ _ _ d rest next hconnective ih =>
    obtain ⟨hnext, hsymbol⟩ := connective?_eq_some hconnective rest
    rw [withoutBlanks_append, hsymbol]
    exact ih.close hnext read connective
  | _ => rwa [← hmove]

/-! ### Texts of any form -/

/-- **Taking a text apart loses nothing but white space**, whatever the text is. Its atoms have no
blanks around them, and those that are not negated have a text. No atom but the last is negated, and
each but the first is joined to the one before it by `&&` or `||`. The text is made of the atoms in
their order, each behind the connective that it is marked with, a negated one behind a `!`, and of
connectives that have no atom between them. -/
theorem decompose_woven (text : String) :
    (∀ atom ∈ decompose text, trimmed atom.text = atom.text) ∧
      (∀ atom ∈ decompose text, atom.negated = false → atom.text ≠ "") ∧
      (∀ atom ∈ (decompose text).dropLast, atom.negated = false) ∧
      (∀ atom ∈ (decompose text).tail, atom.connective = .and ∨ atom.connective = .or) ∧
      Woven .none (decompose text) (withoutBlanks text.toList) := by
  have hwoven : Woven .none (decompose text) (withoutBlanks text.toList) :=
    woven_scan [] .none 0 .outside text.toList
  exact ⟨fun atom hatom => (hwoven.pruned atom hatom).trimmed,
    fun atom hatom => (hwoven.pruned atom hatom).nonempty, hwoven.positive_dropLast,
    hwoven.joined_tail, hwoven⟩

/-- Connectives without an atom between them are left over, and a negation may take nothing. -/
example : decompose "&& a || || b) & ( && !" =
    [{ text := "a", connective := .and }, { text := "b) & (", connective := .or },
      { text := "", connective := .and, negated := true }] := by cbv

end BranchCover.Condition
