import BranchCover.ArgumentList
import BranchCover.Proofs.Text.Trim

/-!
# What an argument list is taken apart at

A scan of an argument list has to know of the characters before it how many brackets are open and
whether it stands in a literal. An argument ends at a comma before which everything is closed. So an
argument that is taken apart once more is left as it is exactly if no comma in it has a closed text
before it.

* `Point`: where a scan stands.
* `scan_cons`, `scan_append`: what a scan does with a character and with a text.
* `Closed`: the texts with every literal and every bracket closed.
* `after_eq_start_iff`: a scan is back at its start exactly behind a closed text.
* `split_eq_self_iff`: the texts that are arguments of their own.
-/

namespace BranchCover.ArgumentList

open Condition (Quoting isQuote)

variable {text read rest : List Char} {c mark : Char}

/-! ### Where a scan stands -/

/-- Where a scan stands: how many brackets are open, and whether it is in a literal. -/
structure Point where
  depth : ℕ := 0
  quoting : Quoting := .outside
  deriving DecidableEq

namespace Point

variable {point : Point}

/-- Where a scan stands behind a character. -/
def next (point : Point) (c : Char) : Point :=
  match point.quoting with
  | .escaped mark => { point with quoting := .inside mark }
  | .inside mark => { point with quoting := .step mark c }
  | .outside =>
    if isQuote c then { point with quoting := .inside c }
    else if isOpening c then { point with depth := point.depth + 1 }
    else if isClosing c then { point with depth := point.depth - 1 }
    else point

/-- Where a scan stands behind a text. -/
def after (point : Point) (text : List Char) : Point := text.foldl next point

/-- Whether a scan meets the end of an argument: a comma where everything is closed. -/
def meetsEnd (point : Point) : List Char → Bool
  | [] => false
  | c :: rest => decide (c = ',' ∧ point = {}) || (point.next c).meetsEnd rest

@[simp] theorem after_cons (point : Point) (c : Char) (text : List Char) :
    point.after (c :: text) = (point.next c).after text := rfl

@[simp] theorem after_append (point : Point) (first second : List Char) :
    point.after (first ++ second) = (point.after first).after second := List.foldl_append ..

theorem next_quote {depth : ℕ} (h : isQuote mark = true) :
    next { depth } mark = { depth, quoting := .inside mark } := by
  simp [next, h]

theorem next_opening {depth : ℕ} (h : isOpening c = true) :
    next { depth } c = { depth := depth + 1 } := by
  have hquote : isQuote c = false := by
    revert h
    simp only [isOpening, isQuote, Bool.or_eq_true, beq_iff_eq]
    rintro ((rfl | rfl) | rfl) <;> decide
  simp [next, hquote, h]

theorem next_closing {depth : ℕ} (h : isClosing c = true) :
    next { depth } c = { depth := depth - 1 } := by
  have hother : isQuote c = false ∧ isOpening c = false := by
    revert h
    simp only [isClosing, Bool.or_eq_true, beq_iff_eq]
    rintro ((rfl | rfl) | rfl) <;> decide
  simp [next, hother.1, hother.2, h]

theorem next_other {depth : ℕ} (hquote : isQuote c = false) (hopening : isOpening c = false)
    (hclosing : isClosing c = false ∨ depth = 0) : next { depth } c = { depth } := by
  rcases hclosing with hclosing | rfl
  · simp [next, hquote, hopening, hclosing]
  · simp [next, hquote, hopening]

theorem next_mark {depth : ℕ} (h : isQuote mark = true) :
    next { depth, quoting := .inside mark } mark = { depth } := by
  have hslash : mark ≠ '\\' := by
    rintro rfl
    exact absurd h (by decide)
  simp [next, Quoting.step, hslash]

theorem next_plain {depth : ℕ} (hslash : c ≠ '\\') (hmark : c ≠ mark) :
    next { depth, quoting := .inside mark } c = { depth, quoting := .inside mark } := by
  simp [next, Quoting.step, hslash, hmark]

theorem next_slash {depth : ℕ} : next { depth, quoting := .inside mark } '\\' =
    { depth, quoting := .escaped mark } := rfl

theorem next_taken {depth : ℕ} : next { depth, quoting := .escaped mark } c =
    { depth, quoting := .inside mark } := rfl

theorem meetsEnd_cons_eq_false : point.meetsEnd (c :: rest) = false ↔
    ¬(c = ',' ∧ point = {}) ∧ (point.next c).meetsEnd rest = false := by
  rw [meetsEnd, Bool.or_eq_false_iff, decide_eq_false_iff_not]

/-- No argument ends in a text without commas. -/
theorem meetsEnd_of_notMem (h : ',' ∉ text) : point.meetsEnd text = false := by
  induction text generalizing point with
  | nil => rfl
  | cons c rest ih =>
    obtain ⟨hc, hrest⟩ := not_or.1 (mt List.mem_cons.2 h)
    exact meetsEnd_cons_eq_false.2 ⟨fun hend => hc hend.1.symm, ih hrest⟩

/-- A text in which an argument ends has a first such comma. -/
theorem exists_first_end (h : point.meetsEnd text = true) :
    ∃ before behind, text = before ++ ',' :: behind ∧
    point.after before = {} ∧ point.meetsEnd before = false := by
  induction text generalizing point with
  | nil => cases h
  | cons c rest ih =>
    by_cases hend : c = ',' ∧ point = {}
    · obtain ⟨rfl, rfl⟩ := hend
      exact ⟨[], rest, rfl, rfl, rfl⟩
    · obtain ⟨before, behind, rfl, hpoint, hbefore⟩ :=
        ih (((Bool.or_eq_true _ _).mp h).resolve_left (by simpa using hend))
      exact ⟨c :: before, behind, rfl, hpoint, meetsEnd_cons_eq_false.2 ⟨hend, hbefore⟩⟩

theorem meetsEnd_append (point : Point) (first second : List Char) :
    point.meetsEnd (first ++ second) =
      (point.meetsEnd first || (point.after first).meetsEnd second) := by
  induction first generalizing point with
  | nil => rfl
  | cons c first ih => rw [List.cons_append, meetsEnd, meetsEnd, ih, Bool.or_assoc, after_cons]

/-- An argument ends in a text exactly if there is a comma in it before which everything is
closed. -/
theorem meetsEnd_iff : point.meetsEnd text = true ↔
    ∃ before behind, text = before ++ ',' :: behind ∧ point.after before = {} := by
  constructor
  · intro h
    obtain ⟨before, behind, htext, hpoint, -⟩ := exists_first_end h
    exact ⟨before, behind, htext, hpoint⟩
  · rintro ⟨before, behind, rfl, hpoint⟩
    rw [meetsEnd_append, meetsEnd, hpoint]
    simp

end Point

/-! ### Scans -/

/-- A scan ends an argument at a comma where everything is closed, and reads any other character. -/
theorem scan_cons (point : Point) : scan read point.depth point.quoting (c :: rest) =
    if c = ',' ∧ point = {} then Text.trim read.reverse :: scan [] 0 .outside rest
    else scan (c :: read) (point.next c).depth (point.next c).quoting rest := by
  obtain ⟨depth, quoting⟩ := point
  cases quoting with
  | escaped mark => simp [scan, Point.next]
  | inside mark => simp [scan, Point.next]
  | outside =>
    by_cases hcomma : c = ',' ∧ depth = 0
    · obtain ⟨rfl, rfl⟩ := hcomma
      rfl
    · have hreads : ¬(c = ',' ∧ ({ depth } : Point) = {}) :=
        fun h => hcomma ⟨h.1, congrArg Point.depth h.2⟩
      rw [if_neg hreads, scan, if_neg hcomma]
      simp only [Point.next]
      split_ifs <;> rfl

/-- A scan reads a text in which no argument ends. -/
theorem scan_append (point : Point) (h : point.meetsEnd text = false) (read rest : List Char) :
    scan read point.depth point.quoting (text ++ rest) =
      scan (text.reverse ++ read) (point.after text).depth (point.after text).quoting rest := by
  induction text generalizing read point with
  | nil => rfl
  | cons c text ih =>
    obtain ⟨hreads, hrest⟩ := Point.meetsEnd_cons_eq_false.1 h
    rw [List.cons_append, scan_cons, if_neg hreads, ih (point.next c) hrest, List.reverse_cons,
      List.append_assoc, List.singleton_append, Point.after_cons]

/-- The last argument of a scan in which no argument ends. -/
theorem scan_eq_closeLast (point : Point) (h : point.meetsEnd text = false) (read : List Char) :
    scan read point.depth point.quoting text = closeLast (text.reverse ++ read) := by
  have hscan := scan_append point h read []
  rw [List.append_nil] at hscan
  rw [hscan, scan]

theorem split_of_meetsEnd_eq_false {text : String} (htrimmed : trimmed text = text)
    (hne : text ≠ "")
    (h : Point.meetsEnd {} text.toList = false) : split text = [text] := by
  have htrim : Text.trim text.toList = text.toList := by rw [← toList_trimmed, htrimmed]
  obtain ⟨c, rest, hchars⟩ := List.exists_cons_of_ne_nil (mt String.toList_eq_nil_iff.1 hne)
  have hscan := scan_eq_closeLast {} h []
  rw [split, hscan, closeLast, List.append_nil, List.reverse_reverse, htrim, hchars]
  simp [← hchars]

/-- The first argument goes up to the first comma that ends one. -/
theorem split_of_first_end {text : String} {before behind : List Char}
    (htext : text.toList = before ++ ',' :: behind)
    (hpoint : Point.after {} before = {}) (hbefore : Point.meetsEnd {} before = false) :
    split text = String.ofList (Text.trim before) ::
      (scan [] 0 .outside behind).map String.ofList := by
  have hscan := scan_append {} hbefore [] (',' :: behind)
  rw [split, htext, hscan, scan_cons, hpoint, if_pos ⟨rfl, rfl⟩]
  simp

/-- Where an argument ends, the first one is shorter than the text. -/
theorem split_of_meetsEnd {text : String} (h : Point.meetsEnd {} text.toList = true) :
    ∃ first others, split text = first :: others ∧ first.toList.length < text.toList.length := by
  obtain ⟨before, behind, htext, hpoint, hbefore⟩ := Point.exists_first_end h
  refine ⟨_, _, split_of_first_end htext hpoint hbefore, ?_⟩
  rw [htext, String.toList_ofList, List.length_append, List.length_cons]
  have := Text.length_trim_le before
  omega

/-! ### Closed texts -/

/-- What can stand between the marks of a literal: plain characters, and backslashes with the
characters that they take with them. -/
inductive LiteralBody (mark : Char) : List Char → Prop
  | nil : LiteralBody mark []
  | plain {c : Char} {rest : List Char} (hslash : c ≠ '\\') (hmark : c ≠ mark)
      (hrest : LiteralBody mark rest) :
    LiteralBody mark (c :: rest)
  | pair {c : Char} {rest : List Char} (hrest : LiteralBody mark rest) :
      LiteralBody mark ('\\' :: c :: rest)

/-- A text with every literal and every bracket closed. Brackets of all kinds close each other, and
on its own a closing bracket is text, but in a bracket it is none. -/
inductive Closed : (nested : Bool) → List Char → Prop
  | nil {nested : Bool} : Closed nested []
  | other {nested : Bool} {c : Char} {rest : List Char} (hquote : isQuote c = false)
      (hopening : isOpening c = false)
    (hclosing : nested = true → isClosing c = false) (hrest : Closed nested rest) :
      Closed nested (c :: rest)
  | literal {nested : Bool} {mark : Char} {body rest : List Char} (hmark : isQuote mark = true)
    (hbody : LiteralBody mark body) (hrest : Closed nested rest) :
      Closed nested (mark :: (body ++ mark :: rest))
  | bracket {nested : Bool} {opening closing : Char} {inner rest : List Char}
      (hopening : isOpening opening = true)
    (hinner : Closed true inner) (hclosing : isClosing closing = true)
    (hrest : Closed nested rest) :
    Closed nested (opening :: (inner ++ closing :: rest))

theorem LiteralBody.after_eq {body : List Char} (h : LiteralBody mark body)
    (hmark : isQuote mark = true) (depth : ℕ)
    (rest : List Char) :
    Point.after { depth, quoting := .inside mark } (body ++ mark :: rest) =
      Point.after { depth } rest := by
  induction h with
  | nil => rw [List.nil_append, Point.after_cons, Point.next_mark hmark]
  | plain hslash hother _ ih =>
    rw [List.cons_append, Point.after_cons, Point.next_plain hslash hother, ih]
  | pair _ ih =>
    rw [List.cons_append, List.cons_append, Point.after_cons, Point.after_cons, Point.next_slash,
      Point.next_taken, ih]

/-- A literal that a scan leaves is closed. -/
theorem exists_literalBody {depth : ℕ} (hmark : isQuote mark = true)
    (h : Point.after { depth, quoting := .inside mark } text = {}) :
    ∃ body rest, LiteralBody mark body ∧ text = body ++ mark :: rest ∧
      Point.after { depth } rest = {} := by
  -- a backslash takes a character with it, so the place behind one is treated along with the
  -- literal
  have hboth : (Point.after { depth, quoting := .inside mark } text = {} →
        ∃ body rest, LiteralBody mark body ∧ text = body ++ mark :: rest ∧
          Point.after { depth } rest = {}) ∧
      (Point.after { depth, quoting := .escaped mark } text = {} →
        ∃ c body rest, LiteralBody mark body ∧ text = c :: (body ++ mark :: rest) ∧
          Point.after { depth } rest = {}) := by
    clear h
    induction text with
    | nil => exact ⟨fun h => (by cases h), fun h => (by cases h)⟩
    | cons c rest ih =>
      refine ⟨fun h => ?_, fun h => ?_⟩
      · rw [Point.after_cons] at h
        by_cases hslash : c = '\\'
        · subst hslash
          obtain ⟨d, body, behind, hbody, rfl, hbehind⟩ := ih.2 h
          exact ⟨'\\' :: d :: body, behind, .pair hbody, rfl, hbehind⟩
        · by_cases hend : c = mark
          · subst hend
            rw [Point.next_mark hmark] at h
            exact ⟨[], rest, .nil, rfl, h⟩
          · rw [Point.next_plain hslash hend] at h
            obtain ⟨body, behind, hbody, rfl, hbehind⟩ := ih.1 h
            exact ⟨c :: body, behind, .plain hslash hend hbody, rfl, hbehind⟩
      · obtain ⟨body, behind, hbody, rfl, hbehind⟩ := ih.1 h
        exact ⟨c, body, behind, hbody, rfl, hbehind⟩
  exact hboth.1 h

/-- A scan is where it was behind a closed text. -/
theorem Closed.after_eq {nested : Bool} (h : Closed nested text) {depth : ℕ}
    (hdepth : nested = false → depth = 0) :
    Point.after { depth } text = { depth } := by
  induction h generalizing depth with
  | nil => rfl
  | @other nested c rest hquote hopening hclosing _ ih =>
    have houtside : isClosing c = false ∨ depth = 0 := by
      cases nested with
      | true => exact Or.inl (hclosing rfl)
      | false => exact Or.inr (hdepth rfl)
    rw [Point.after_cons, Point.next_other hquote hopening houtside, ih hdepth]
  | literal hmark hbody _ ih =>
    rw [Point.after_cons, Point.next_quote hmark, hbody.after_eq hmark, ih hdepth]
  | bracket hopening _ hclosing _ ihinner ihrest =>
    rw [Point.after_cons, Point.next_opening hopening, Point.after_append, ihinner (by simp),
      Point.after_cons, Point.next_closing hclosing, Nat.add_sub_cancel, ihrest hdepth]

/-- A text that closes a number of brackets, and has everything else closed. -/
def Closes : ℕ → List Char → Prop
  | 0, text => Closed false text
  | depth + 1, text => ∃ inner closing rest, Closed true inner ∧ isClosing closing = true ∧
      text = inner ++ closing :: rest ∧ Closes depth rest

/-- What can stand before every closed text can stand before one that closes brackets. -/
theorem Closes.append {depth : ℕ} (h : Closes depth text) (front : List Char)
    (hfront : ∀ nested inner, (nested = true → depth ≠ 0) → Closed nested inner →
      Closed nested (front ++ inner)) :
    Closes depth (front ++ text) := by
  cases depth with
  | zero => exact hfront false text (by simp) h
  | succ depth =>
    obtain ⟨inner, closing, rest, hinner, hclosing, rfl, hrest⟩ := h
    exact ⟨front ++ inner, closing, rest, hfront true inner (by simp) hinner, hclosing,
      by simp, hrest⟩

/-- A text behind which a scan is at its start closes the brackets that were open before it. -/
theorem closes_of_after_eq {depth : ℕ} (h : Point.after { depth } text = {}) :
    Closes depth text := by
  -- a literal is read as a whole, so the induction is on the length and not on the text
  induction hlength : text.length using Nat.strong_induction_on generalizing text depth with
  | _ n ih =>
    subst hlength
    cases text with
    | nil =>
      obtain rfl : depth = 0 := congrArg Point.depth h
      exact .nil
    | cons c rest =>
      rw [Point.after_cons] at h
      have hshorter : rest.length < (c :: rest).length := Nat.lt_succ_self _
      by_cases hquote : isQuote c = true
      · rw [Point.next_quote hquote] at h
        obtain ⟨body, behind, hbody, rfl, hbehind⟩ := exists_literalBody hquote h
        have hless : behind.length < (c :: (body ++ c :: behind)).length := by
          simp only [List.length_cons, List.length_append]
          omega
        have hfront := (ih _ hless hbehind rfl).append
          (c :: (body ++ [c])) fun nested inner _ hinner => by
          simpa using Closed.literal hquote hbody hinner
        simpa using hfront
      by_cases hopening : isOpening c = true
      · rw [Point.next_opening hopening] at h
        obtain ⟨inner, closing, behind, hinner, hclosing, rfl, hbehind⟩ := ih _ hshorter h rfl
        have hfront := hbehind.append (c :: (inner ++ [closing])) fun nested others _ hothers => by
          simpa using Closed.bracket hopening hinner hclosing hothers
        simpa using hfront
      by_cases hclosing : isClosing c = true ∧ depth ≠ 0
      · obtain ⟨hclosing, hdepth⟩ := hclosing
        obtain ⟨depth, rfl⟩ := Nat.exists_eq_succ_of_ne_zero hdepth
        rw [Point.next_closing hclosing] at h
        exact ⟨[], c, rest, .nil, hclosing, rfl, ih _ hshorter h rfl⟩
      · rw [Bool.not_eq_true] at hquote hopening
        have htext : depth ≠ 0 → isClosing c = false := fun hdepth =>
          Bool.eq_false_iff.2 fun htrue => hclosing ⟨htrue, hdepth⟩
        rw [Point.next_other hquote hopening ((em (depth = 0)).symm.imp_left htext)] at h
        exact (ih _ hshorter h rfl).append [c] fun nested inner hnested hinner =>
          .other hquote hopening (fun htrue => htext (hnested htrue)) hinner

/-- **A scan is back at its start exactly behind a closed text.** -/
theorem after_eq_start_iff : Point.after {} text = {} ↔ Closed false text :=
  ⟨closes_of_after_eq, fun h => h.after_eq fun _ => rfl⟩

/-! ### Arguments that are left as they are -/

/-- A text in which every comma stands in a bracket or in a literal: no closed text stands before
one. -/
def Whole (text : List Char) : Prop :=
  ∀ before behind, text = before ++ ',' :: behind → ¬Closed false before

theorem meetsEnd_eq_false_iff : Point.meetsEnd {} text = false ↔ Whole text := by
  rw [← Bool.not_eq_true, Point.meetsEnd_iff]
  simp only [after_eq_start_iff, not_exists, not_and, Whole]

instance (text : List Char) : Decidable (Whole text) :=
  decidable_of_iff (Point.meetsEnd {} text = false) meetsEnd_eq_false_iff

variable {argument : String}

/-- An argument as it is recorded: trimmed, and not blank. -/
structure Recorded (argument : String) : Prop where
  trimmed : trimmed argument = argument
  nonempty : argument ≠ ""

instance (argument : String) : Decidable (Recorded argument) :=
  decidable_of_iff (BranchCover.trimmed argument = argument ∧ argument ≠ "") ⟨fun h =>
    ⟨h.1, h.2⟩, fun h => ⟨h.1, h.2⟩⟩

/-- **An argument that is taken apart is left as it is exactly if it is whole.** -/
theorem split_eq_self_iff (h : Recorded argument) : split argument = [argument] ↔
    Whole argument.toList := by
  rw [← meetsEnd_eq_false_iff]
  constructor
  · intro hsplit
    by_contra hends
    obtain ⟨first, others, hfirst, hshorter⟩ := split_of_meetsEnd (Bool.not_eq_false _ ▸ hends)
    obtain ⟨rfl, -⟩ := List.cons.inj (hsplit.symm.trans hfirst)
    exact absurd hshorter (Nat.lt_irrefl _)
  · exact split_of_meetsEnd_eq_false h.trimmed h.nonempty

theorem split_ne_nil (h : Recorded argument) : split argument ≠ [] := by
  cases hends : Point.meetsEnd {} argument.toList with
  | true =>
    obtain ⟨first, others, hfirst, -⟩ := split_of_meetsEnd hends
    rw [hfirst]
    exact List.cons_ne_nil _ _
  | false =>
    rw [split_of_meetsEnd_eq_false h.trimmed h.nonempty hends]
    exact List.cons_ne_nil _ _

theorem length_le_length_flatMap_split {arguments : List String}
    (h : ∀ argument ∈ arguments, Recorded argument) :
    arguments.length ≤ (arguments.flatMap split).length := by
  induction arguments with
  | nil => exact Nat.zero_le _
  | cons argument rest ih =>
    have hfirst := List.length_pos_iff.2 (split_ne_nil (h argument List.mem_cons_self))
    have hrest := ih fun other hother => h other (List.mem_cons_of_mem _ hother)
    rw [List.flatMap_cons, List.length_append, List.length_cons]
    omega

/-- **Recorded arguments that are taken apart are left as they are exactly if every one of them is
whole.** -/
theorem flatMap_split_eq_self_iff {arguments : List String}
    (h : ∀ argument ∈ arguments, Recorded argument) :
    arguments.flatMap split = arguments ↔ ∀ argument ∈ arguments, Whole argument.toList := by
  induction arguments with
  | nil => simp
  | cons argument rest ih =>
    have hargument := h argument List.mem_cons_self
    have hothers : ∀ other ∈ rest, Recorded other :=
      fun other hother => h other (List.mem_cons_of_mem _ hother)
    rw [List.forall_mem_cons, ← split_eq_self_iff hargument, ← ih hothers, List.flatMap_cons]
    constructor
    · intro hsame
      -- neither part is shorter than what it is made from, so the parts are cut at the same place
      have hlength := congrArg List.length hsame
      have hfirst := List.length_pos_iff.2 (split_ne_nil hargument)
      have hrest := length_le_length_flatMap_split hothers
      rw [List.length_append, List.length_cons] at hlength
      exact List.append_inj hsame (by rw [List.length_singleton]; omega)
    · rintro ⟨hfirst, hrest⟩
      rw [hfirst, hrest, List.singleton_append]

end BranchCover.ArgumentList
