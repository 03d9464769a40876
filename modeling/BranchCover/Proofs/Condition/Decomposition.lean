import BranchCover.Condition.Basic
import BranchCover.Proofs.Text.Trim

/-!
# Conditions taken apart

A condition is scanned character by character, and what a scan has to know of the characters before
it is how many parentheses are open and whether it stands in a literal. An atom is a text that
leaves this as it found it, so a chain of atoms is taken apart into the atoms that it was put
together from.

* `ScanPoint`: where a scan stands.
* `IsAtom`: the texts that can stand in a chain as an atom.
* `written`: a chain of atoms as it is written.
* `decompose_written`: a written chain is taken apart into its atoms.
-/

namespace BranchCover

/-- How a connective is written. -/
def Connective.symbol : Connective → List Char
  | .none => []
  | .and => ['&', '&']
  | .or => ['|', '|']

namespace Condition

/-! ### Where a scan stands -/

/-- Where a scan stands: how many parentheses are open, and whether it is in a literal. -/
structure ScanPoint where
  depth : Int := 0
  quoting : Quoting := .outside
  deriving DecidableEq

namespace ScanPoint

/-- Where a scan stands behind a character. -/
def next (point : ScanPoint) (c : Char) : ScanPoint :=
  match point.quoting with
  | .escaped mark => { point with quoting := .inside mark }
  | .inside mark => { point with quoting := .step mark c }
  | .outside =>
    if isQuote c then { point with quoting := .inside c }
    else if c = '(' then { point with depth := point.depth + 1 }
    else if c = ')' then { point with depth := point.depth - 1 }
    else point

/-- Where a scan stands behind a text. -/
def after (point : ScanPoint) (text : List Char) : ScanPoint := text.foldl next point

/-- Whether two neighbouring characters write a connective outside parentheses and literals. -/
def splits (point : ScanPoint) (c d : Char) : Bool :=
  point.quoting = .outside && (connective? c d point.depth).isSome

/-- Whether a scan meets a connective outside parentheses and literals. -/
def meetsConnective (point : ScanPoint) : List Char → Bool
  | c :: d :: rest => point.splits c d || (point.next c).meetsConnective (d :: rest)
  | _ => false

end ScanPoint

/-- A text that can stand in a chain as an atom: it is not blank, it has no blanks around it, it
does not start with a negation, a scan of it ends outside parentheses and literals, and it meets no
connective there. -/
structure IsAtom (text : String) : Prop where
  trimmed : trimmed text = text
  nonempty : text ≠ ""
  positive : text.toList.head? ≠ some '!'
  closed : ScanPoint.after {} text.toList = {}
  unjoined : ScanPoint.meetsConnective {} text.toList = false

instance (text : String) : Decidable (IsAtom text) :=
  decidable_of_iff (BranchCover.trimmed text = text ∧ text ≠ "" ∧ text.toList.head? ≠ some '!' ∧
      ScanPoint.after {} text.toList = {} ∧ ScanPoint.meetsConnective {} text.toList = false)
    ⟨fun ⟨htrimmed, hnonempty, hpositive, hclosed, hunjoined⟩ =>
        ⟨htrimmed, hnonempty, hpositive, hclosed, hunjoined⟩,
      fun h => ⟨h.trimmed, h.nonempty, h.positive, h.closed, h.unjoined⟩⟩

/-! ### Chains as they are written -/

/-- An atom as it is written. -/
def writtenAtom (atom : Condition) : List Char :=
  if atom.negated then '!' :: atom.text.toList else atom.text.toList

/-- The atoms behind the first one of a chain as they are written, each behind its connective. -/
def writtenLinks : List Condition → List Char
  | [] => []
  | atom :: rest => ' ' :: (atom.connective.symbol ++ ' ' ::
      (atom.writtenAtom ++ writtenLinks rest))

/-- A chain of atoms as it is written. -/
def written : List Condition → String
  | [] => ""
  | first :: rest => String.ofList (first.writtenAtom ++ writtenLinks rest)

/-- The chain of a first atom and others with their connectives, none negated. -/
def chainOf (first : String) (links : List (Connective × String)) : List Condition :=
  { text := first } :: links.map fun (connective, text) => { text, connective }

/-- A chain with its last atom negated. -/
def negateLast : List Condition → List Condition
  | [] => []
  | [last] => [{ last with negated := true }]
  | first :: second :: rest => first :: negateLast (second :: rest)

/-- A chain of atoms, of which each but the first is joined to the one before it, and only the last
may be negated. -/
inductive Chain : List Condition → Prop
  | last {atom : Condition} (hatom : IsAtom atom.text) : Chain [atom]
  | cons {first second : Condition} {rest : List Condition} (hfirst : IsAtom first.text)
      (hnegated : first.negated = false)
      (hjoined : second.connective = .and ∨ second.connective = .or)
      (hrest : Chain (second :: rest)) : Chain (first :: second :: rest)

theorem chain_cons_map {first : Condition} {links : List (Connective × String)}
    (hfirst : IsAtom first.text)
    (hnegated : first.negated = false)
    (hlinks : ∀ link ∈ links, (link.1 = .and ∨ link.1 = .or) ∧ IsAtom link.2) :
    Chain (first :: links.map fun (connective, text) => { text, connective }) := by
  induction links generalizing first with
  | nil => exact .last hfirst
  | cons link links ih =>
    rw [List.forall_mem_cons] at hlinks
    exact .cons hfirst hnegated hlinks.1.1 (ih hlinks.1.2 rfl hlinks.2)

theorem negateLast_cons (first : Condition) (rest : List Condition) :
    ∃ atom atoms, negateLast (first :: rest) = atom :: atoms ∧
      atom.connective = first.connective := by
  cases rest with
  | nil => exact ⟨_, _, rfl, rfl⟩
  | cons second rest => exact ⟨_, _, rfl, rfl⟩

theorem Chain.negateLast {atoms : List Condition} (h : Chain atoms) : Chain (negateLast atoms) := by
  induction h with
  | last hatom => exact .last hatom
  | @cons first second rest hfirst hnegated hjoined hrest ih =>
    obtain ⟨atom, atoms, hatoms, hconnective⟩ := negateLast_cons second rest
    rw [Condition.negateLast, hatoms]
    rw [hatoms] at ih
    exact .cons hfirst hnegated (hconnective ▸ hjoined) ih

/-! ### One step of a scan -/

variable {read text rest : List Char} {connective : Connective} {point : ScanPoint} {c d : Char}

/-- A blank is no part of a connective. -/
theorem ScanPoint.splits_blank (point : ScanPoint) (c : Char) :
    point.splits ' ' c = false ∧ point.splits c ' ' = false := by
  refine ⟨by simp [ScanPoint.splits, connective?], ?_⟩
  by_cases hc : c = ' '
  · simp [ScanPoint.splits, connective?, hc]
  · simp [ScanPoint.splits, connective?, hc]

/-- A scan that meets no connective meets none at its first character and none behind it. -/
theorem ScanPoint.of_meetsConnective_cons (h : point.meetsConnective (c :: text) = false) :
    (∀ d, text.head? = some d → point.splits c d = false) ∧
      (point.next c).meetsConnective text = false := by
  cases text with
  | nil => exact ⟨by simp, rfl⟩
  | cons d text =>
    rw [ScanPoint.meetsConnective, Bool.or_eq_false_iff] at h
    exact ⟨by simpa using h.1, h.2⟩

/-- A character that starts neither a negation nor a connective is read. -/
theorem scan_cons (point : ScanPoint) (hnegation : c = '!' → Text.isAllBlank read = false)
    (hsplits : ∀ d, rest.head? = some d → point.splits c d = false) :
    scan read connective point.depth point.quoting (c :: rest) =
      scan (c :: read) connective (point.next c).depth (point.next c).quoting rest := by
  obtain ⟨depth, quoting⟩ := point
  cases quoting with
  | escaped mark => rfl
  | inside mark => rfl
  | outside =>
    have hread : ¬(c = '!' ∧ depth = 0 ∧ Text.isAllBlank read) := by
      rintro ⟨hc, -, hblank⟩
      rw [hnegation hc] at hblank
      cases hblank
    cases rest with
    | nil =>
      simp only [scan, if_neg hread]
      split_ifs <;> rfl
    | cons d rest =>
      have hnone : connective? c d depth = none := by simpa [ScanPoint.splits] using hsplits d rfl
      rw [scan, if_neg hread, hnone]
      simp only [ScanPoint.next]
      split_ifs <;> rfl

/-- A text without connectives is read whole if it does not start the atom with a negation, and a
blank or nothing is behind it. -/
theorem scan_append (hunjoined : point.meetsConnective text = false)
    (hstart : Text.isAllBlank read = true → ∀ c, text.head? = some c → c ≠ '!' ∧
      Text.isBlank c = false)
    (hrest : ∀ d, rest.head? = some d → d = ' ') :
    scan read connective point.depth point.quoting (text ++ rest) =
      scan (text.reverse ++ read) connective (point.after text).depth
        (point.after text).quoting rest := by
  induction text generalizing read point with
  | nil => rfl
  | cons c text ih =>
    have hnegation : c = '!' → Text.isAllBlank read = false := by
      intro hc
      by_contra hblank
      exact (hstart (by simpa using hblank) c rfl).1 hc
    obtain ⟨hfirst, hbehind⟩ := ScanPoint.of_meetsConnective_cons hunjoined
    have hsplits : ∀ d, (text ++ rest).head? = some d → point.splits c d = false := by
      intro d hd
      cases text with
      | nil =>
        obtain rfl := hrest d hd
        exact (point.splits_blank c).2
      | cons e text => exact hfirst d hd
    -- the atom under way has a character that is no blank from here on
    have hread : Text.isAllBlank (c :: read) = false := by
      rw [Text.isAllBlank, List.all_cons, Bool.and_eq_false_iff]
      by_cases hblank : Text.isAllBlank read = true
      · exact Or.inl (hstart hblank c rfl).2
      · exact Or.inr (by simpa [Text.isAllBlank] using hblank)
    rw [List.cons_append, scan_cons point hnegation hsplits, ih hbehind (by simp [hread]),
      List.reverse_cons, List.append_assoc]
    rfl

/-! ### What stands behind a text -/

theorem isAllBlank_cons_eq_false (h : Text.isAllBlank read = false) (c : Char) :
    Text.isAllBlank (c :: read) = false := by
  rw [Text.isAllBlank, List.all_cons, Bool.and_eq_false_iff]
  exact Or.inr h

theorem closeAtom_of_isAllBlank_eq_false (h : Text.isAllBlank read = false)
    (connective : Connective) :
    closeAtom read connective = [{ text := String.ofList (Text.trim read.reverse),
                                   connective }] := by
  rw [closeAtom]
  split
  · rename_i htrim
    rw [Text.trim_eq_nil_iff] at htrim
    have hblank : Text.isAllBlank read = true :=
      List.all_eq_true.2 fun c hc => htrim c (List.mem_reverse.2 hc)
    rw [hblank] at h
    cases h
  · rfl

/-- Where a connective is met, the atom under way ends. -/
theorem scan_split (h : point.splits c d = true) (rest : List Char) : ∃ next, ∀ read connective,
    scan read connective point.depth point.quoting (c :: d :: rest) =
      closeAtom read connective ++ scan [] next point.depth .outside rest := by
  obtain ⟨depth, quoting⟩ := point
  simp only [ScanPoint.splits, Bool.and_eq_true, decide_eq_true_iff] at h
  obtain ⟨rfl, hsome⟩ := h
  obtain ⟨next, hnext⟩ := Option.isSome_iff_exists.1 hsome
  refine ⟨next, fun read connective => ?_⟩
  have hmark : c = '&' ∨ c = '|' := by
    unfold connective? at hnext
    split_ifs at hnext <;> tauto
  rcases hmark with rfl | rfl <;> simp [scan, isQuote, hnext]

/-- Behind a text that is not blank a scan goes on in the same way, whatever that text is: it reads
the same piece into the atom under way and finds the same atoms behind it. -/
theorem exists_scan (connective : Connective) (point : ScanPoint) (text : List Char) :
    ∃ piece atoms, ∀ read, Text.isAllBlank read = false →
      scan read connective point.depth point.quoting text =
        { text := String.ofList (Text.trim (read.reverse ++ piece)), connective } :: atoms := by
  induction text generalizing point with
  | nil =>
    refine ⟨[], [], fun read hread => ?_⟩
    rw [scan, closeAtom_of_isAllBlank_eq_false hread, List.append_nil]
  | cons c text ih =>
    by_cases hsplits : ∀ d, text.head? = some d → point.splits c d = false
    · obtain ⟨piece, atoms, hscan⟩ := ih (point.next c)
      refine ⟨c :: piece, atoms, fun read hread => ?_⟩
      rw [scan_cons point (fun _ => hread) hsplits, hscan _ (isAllBlank_cons_eq_false hread c),
        List.reverse_cons, List.append_assoc, List.singleton_append]
    · push Not at hsplits
      obtain ⟨d, hd, hsplit⟩ := hsplits
      obtain ⟨rest, rfl⟩ := List.head?_eq_some_iff.1 hd
      obtain ⟨next, hscan⟩ := scan_split (by simpa using hsplit) rest
      refine ⟨[], scan [] next point.depth .outside rest, fun read hread => ?_⟩
      rw [hscan, closeAtom_of_isAllBlank_eq_false hread, List.append_nil, List.singleton_append]

/-- A character that means nothing to a scan outside literals. -/
def isPlain (c : Char) : Bool := !isQuote c && c != '(' && c != ')' && c != '&' && c != '|'

/-- A text that can stand at the start of an atom and that a scan reads through: it has no character
that means something to the scan, no blanks at its ends and no negation in front. -/
structure IsFront (text : List Char) : Prop where
  plain : ∀ c ∈ text, isPlain c = true
  first : ∃ c, text.head? = some c ∧ c ≠ '!' ∧ Text.isBlank c = false
  last : ∀ c, text.getLast? = some c → Text.isBlank c = false

theorem ScanPoint.next_of_isPlain (h : isPlain c = true) : ScanPoint.next {} c = {} := by
  simp only [isPlain, Bool.and_eq_true, Bool.not_eq_true', bne_iff_ne] at h
  simp [ScanPoint.next, h]

theorem ScanPoint.splits_of_isPlain (h : isPlain c = true) (point : ScanPoint) (d : Char) :
    point.splits c d = false := by
  simp only [isPlain, Bool.and_eq_true, bne_iff_ne] at h
  simp [ScanPoint.splits, connective?, h]

theorem scan_of_isPlain (h : ∀ c ∈ text, isPlain c = true) :
    ScanPoint.after {} text = {} ∧ ScanPoint.meetsConnective {} text = false := by
  induction text with
  | nil => exact ⟨rfl, rfl⟩
  | cons c text ih =>
    obtain ⟨hc, htext⟩ := List.forall_mem_cons.1 h
    obtain ⟨hafter, hmeets⟩ := ih htext
    refine ⟨?_, ?_⟩
    · rw [ScanPoint.after, List.foldl_cons, ScanPoint.next_of_isPlain hc]
      exact hafter
    · cases text with
      | nil => rfl
      | cons d text =>
        rw [ScanPoint.meetsConnective, ScanPoint.splits_of_isPlain hc,
          ScanPoint.next_of_isPlain hc, hmeets]
        rfl

/-- A condition whose first atom starts with a given text: what stands behind the text decides what
else belongs to the atom and which atoms follow. -/
theorem exists_decompose (rest : List Char) : ∃ piece atoms, ∀ front, IsFront front →
    decompose (String.ofList (front ++ ' ' :: rest)) =
      { text := String.ofList (Text.trim (front ++ piece)) } :: atoms := by
  obtain ⟨piece, atoms, hscan⟩ := exists_scan .none {} (' ' :: rest)
  refine ⟨piece, atoms, fun front hfront => ?_⟩
  obtain ⟨hafter, hmeets⟩ := scan_of_isPlain hfront.plain
  obtain ⟨c, hhead, hnegation, hblank⟩ := hfront.first
  have hread : Text.isAllBlank front.reverse = false := by
    refine Bool.eq_false_iff.2 fun hall => ?_
    rw [List.all_eq_true.1 hall c (List.mem_reverse.2 (List.mem_of_head? hhead))] at hblank
    cases hblank
  have hfirst : scan [] .none 0 .outside (front ++ ' ' :: rest) =
      scan (front.reverse ++ []) .none (ScanPoint.after {} front).depth
        (ScanPoint.after {} front).quoting
        (' ' :: rest) := by
    refine scan_append hmeets (fun _ d hd => ?_) fun d hd => (Option.some.inj hd).symm
    obtain rfl := Option.some.inj (hhead.symm.trans hd)
    exact ⟨hnegation, hblank⟩
  rw [decompose, String.toList_ofList, hfirst, hafter, List.append_nil, hscan _ hread,
    List.reverse_reverse]

/-- Whether a condition is one atom is decided by what stands behind its start. -/
theorem decompose_front {front front' : List Char} (hfront : IsFront front)
    (hfront' : IsFront front')
    (h : decompose (String.ofList (front ++ ' ' :: rest)) =
      [{ text := String.ofList (Text.trim (front ++ ' ' :: rest)) }]) :
    decompose (String.ofList (front' ++ ' ' :: rest)) =
      [{ text := String.ofList (Text.trim (front' ++ ' ' :: rest)) }] := by
  have htrim : ∀ front, IsFront front → ∀ behind,
      Text.trim (front ++ behind) = front ++ Text.trimEnd behind := by
    intro front hfront behind
    obtain ⟨c, hhead, -, hblank⟩ := hfront.first
    exact Text.trim_append_of_ends hhead hblank hfront.last
  obtain ⟨piece, atoms, hdecompose⟩ := exists_decompose rest
  rw [hdecompose front hfront, htrim front hfront, htrim front hfront] at h
  obtain ⟨hatom, rfl⟩ := List.cons.inj h
  have hpiece : Text.trimEnd piece = Text.trimEnd (' ' :: rest) :=
    List.append_cancel_left (String.ofList_injective (congrArg Condition.text hatom))
  rw [hdecompose front' hfront', htrim front' hfront', htrim front' hfront', hpiece]

/-! ### The scan of a chain -/

theorem IsAtom.trim_eq {text : String} (h : IsAtom text) : Text.trim text.toList = text.toList := by
  rw [← toList_trimmed, h.trimmed]

/-- An atom ends with the text that was read, without the blanks around it. -/
theorem IsAtom.closeAtom_eq {text : String} (h : IsAtom text) (before after : List Char)
    (hbefore : ∀ c ∈ before, Text.isBlank c = true) (hafter : ∀ c ∈ after, Text.isBlank c = true)
    (connective : Connective) :
    closeAtom (after ++ (text.toList.reverse ++ before)) connective = [{ text, connective }] := by
  have hne : text.toList ≠ [] := by simpa using h.nonempty
  have hread : (after ++ (text.toList.reverse ++ before)).reverse =
      before.reverse ++ (text.toList ++ after.reverse) := by simp
  rw [closeAtom, hread, Text.trim_pad (by simpa using hbefore) (by simpa using hafter), h.trim_eq]
  cases hlist : text.toList with
  | nil => exact absurd hlist hne
  | cons c rest => simp [← hlist]

/-- An atom is read whole, and the scan stands behind it as it stood before it. -/
theorem IsAtom.scan_append {text : String} (h : IsAtom text)
    (hrest : ∀ d, rest.head? = some d → d = ' ') :
    scan read connective 0 .outside (text.toList ++ rest) =
      scan (text.toList.reverse ++ read) connective 0 .outside rest := by
  have hstart : ∀ c, text.toList.head? = some c → c ≠ '!' ∧ Text.isBlank c = false := by
    intro c hc
    refine ⟨?_, ?_⟩
    · rintro rfl
      exact h.positive hc
    · rw [← h.trimmed, toList_trimmed] at hc
      exact Text.head?_trim hc
  have hscan : scan read connective 0 .outside (text.toList ++ rest) =
      scan (text.toList.reverse ++ read) connective (ScanPoint.after {} text.toList).depth
        (ScanPoint.after {} text.toList).quoting rest :=
    Condition.scan_append h.unjoined (fun _ => hstart) hrest
  rwa [h.closed] at hscan

/-- A connective between blanks ends the atom before it. -/
theorem scan_symbol {next : Connective} (hnext : next = .and ∨ next = .or) :
    scan read connective 0 .outside (' ' :: (next.symbol ++ ' ' :: rest)) =
      closeAtom (' ' :: read) connective ++ scan [' '] next 0 .outside rest := by
  have hblank : ∀ read connective (rest : List Char),
    scan read connective 0 .outside (' ' :: rest) =
      scan (' ' :: read) connective 0 .outside rest := fun read connective rest =>
    scan_cons {} (by simp) fun d _ => (ScanPoint.splits_blank {} d).1
  rw [hblank]
  rcases hnext with rfl | rfl <;> simp [Connective.symbol, scan, isQuote, connective?, hblank]

/-- A negation at the start of an atom takes all that is left. -/
theorem scan_negation (hread : ∀ c ∈ read, Text.isBlank c = true) :
    scan read connective 0 .outside ('!' :: rest) =
      [{ text := String.ofList (Text.trim rest), connective, negated := true }] := by
  have hblank : Text.isAllBlank read = true := List.all_eq_true.2 hread
  cases rest <;> simp [scan, isQuote, hblank]

theorem head?_writtenLinks (atoms : List Condition) : ∀ d, (writtenLinks atoms).head? = some d →
    d = ' ' := by
  intro d hd
  cases atoms with
  | nil => cases hd
  | cons atom rest => exact (Option.some.inj hd).symm

/-- A chain is taken apart from its first atom on, behind blanks. -/
theorem scan_written {first : Condition} {rest : List Condition} (h : Chain (first :: rest))
    (hread : ∀ c ∈ read, Text.isBlank c = true) :
    scan read first.connective 0 .outside (first.writtenAtom ++ writtenLinks rest) =
      first :: rest := by
  induction rest generalizing first read with
  | nil =>
    cases h with | last hatom =>
    obtain ⟨text, connective, negated⟩ := first
    cases negated with
    | false =>
      rw [writtenAtom, if_neg (by simp), hatom.scan_append (by simp [writtenLinks]),
        writtenLinks, scan]
      exact hatom.closeAtom_eq read [] hread (by simp) connective
    | true =>
      rw [writtenAtom, if_pos rfl, writtenLinks, List.append_nil, scan_negation hread,
        hatom.trim_eq, String.ofList_toList]
  | cons second rest ih =>
    cases h with | cons hatom hnegated hjoined hrest =>
    obtain ⟨text, connective, negated⟩ := first
    obtain rfl : negated = false := hnegated
    have hblank : ∀ c ∈ [' '], Text.isBlank c = true := List.forall_mem_singleton.2 rfl
    rw [writtenAtom, if_neg (by simp), hatom.scan_append (head?_writtenLinks _), writtenLinks,
      scan_symbol hjoined, ih hrest hblank]
    exact congrArg (· ++ second :: rest) (hatom.closeAtom_eq read [' '] hread hblank connective)

/-- A written chain is taken apart into its atoms. -/
theorem decompose_written {first : Condition} {rest : List Condition} (h : Chain (first :: rest))
    (hfirst : first.connective = .none) : decompose (written (first :: rest)) = first :: rest := by
  rw [decompose, written, String.toList_ofList, ← hfirst]
  exact scan_written h (by simp)

/-- An atom is taken apart into itself. -/
theorem IsAtom.decompose_eq {text : String} (h : IsAtom text) : decompose text = [{ text }] := by
  have hwritten : written [{ text }] = text := by simp [written, writtenAtom, writtenLinks]
  rw [← decompose_written (Chain.last h) rfl, hwritten]

/-- **Taking a condition apart undoes putting it together.** Atoms that are written one behind
another, with their connectives between them, are found again with their connectives and none
negated; and if the last one is written with a negation in front of it, that one is found
negated. -/
theorem decompose_joined (first : String) (links : List (Connective × String))
    (hfirst : IsAtom first)
    (hlinks : ∀ link ∈ links, (link.1 = .and ∨ link.1 = .or) ∧ IsAtom link.2) :
    decompose (written (chainOf first links)) = chainOf first links ∧
      decompose (written (negateLast (chainOf first links))) =
        negateLast (chainOf first links) := by
  have hchain : Chain (chainOf first links) := chain_cons_map hfirst rfl hlinks
  refine ⟨decompose_written hchain rfl, ?_⟩
  obtain ⟨atom, atoms, hatoms, hconnective⟩ := negateLast_cons { text := first } _
  have hnegated := hchain.negateLast
  rw [chainOf, hatoms] at hnegated ⊢
  exact decompose_written hnegated hconnective

/-- An atom may hold connectives in literals and parentheses and end in one half of a connective. -/
theorem decompose_joined_nested :
    written (negateLast (chainOf "s == \"a\\\"&&\"" [(.or, "f(b || c) &"), (.and, "d")])) =
        "s == \"a\\\"&&\" || f(b || c) & && !d" ∧
      decompose "s == \"a\\\"&&\" || f(b || c) & && !d" =
        [{ text := "s == \"a\\\"&&\"" }, { text := "f(b || c) &", connective := .or },
          { text := "d", connective := .and, negated := true }] :=
  ⟨by decide,
    (decompose_joined "s == \"a\\\"&&\"" [(.or, "f(b || c) &"), (.and, "d")] (by decide)
      (by decide)).2⟩

end Condition

end BranchCover
