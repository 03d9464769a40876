import BranchCover.Text.Blank
import Mathlib.Data.List.DropRight

/-!
# Trimmed texts

A trimmed text has no blank at its ends, so trimming it again changes nothing, and trimming loses
nothing but blanks.

* `head?_trim`, `getLast?_trim`: the ends of a trimmed text are no blanks.
* `trim_eq_self`, `trim_of_ends`, `trim_between`: a text without blanks at its ends is trimmed.
* `exists_pad`, `trim_pad`: the blanks around a trimmed text.
* `takeWhile_append_eq`, `dropWhile_append_eq`: a maximal run at the head of a text.
* `withoutBlanks_trim`, `mem_trim_iff`: a character other than a blank is kept.
-/

namespace BranchCover

namespace Text

theorem dropEndWhile_eq_rdropWhile (p : Char → Bool) (text : List Char) :
    dropEndWhile p text = text.rdropWhile p := by
  induction text with
  | nil => rfl
  | cons c rest ih =>
    simp only [dropEndWhile, ih, List.rdropWhile, List.reverse_cons, List.dropWhile_append]
    cases h : rest.reverse.dropWhile p with
    | nil => by_cases hc : p c <;> simp [hc]
    | cons d kept =>
      cases hr : (d :: kept).reverse with
      | nil => simp at hr
      | cons e r => simp [← hr]

/-- What is left when the characters of a class are taken from the end does not end in one. -/
theorem getLast?_dropEndWhile {p : Char → Bool} {text : List Char} {c : Char}
    (h : (dropEndWhile p text).getLast? = some c) : p c = false := by
  rw [dropEndWhile_eq_rdropWhile] at h
  obtain ⟨hne, rfl⟩ := List.mem_getLast?_eq_getLast h
  simpa using List.rdropWhile_last_not p text hne

theorem isPrefix_dropEndWhile (p : Char → Bool) (text : List Char) :
    dropEndWhile p text <+: text := by
  rw [dropEndWhile_eq_rdropWhile]
  exact List.rdropWhile_prefix p text

theorem dropEndWhile_eq_self {p : Char → Bool} {text : List Char}
    (h : ∀ c, text.getLast? = some c → p c = false) : dropEndWhile p text = text := by
  rw [dropEndWhile_eq_rdropWhile, List.rdropWhile_eq_self_iff]
  intro hne
  simpa using h _ (List.getLast?_eq_some_getLast hne)

theorem dropWhile_eq_self_of_head? {p : Char → Bool} {text : List Char}
    (h : ∀ c, text.head? = some c → p c = false) : text.dropWhile p = text := by
  cases text with
  | nil => rfl
  | cons c rest => simp [h c rfl]

/-- A run of a class at the head of a text ends where the next character is outside the class. -/
theorem takeWhile_append_eq {p : Char → Bool} {run rest : List Char} (hrun : ∀ c ∈ run, p c = true)
    (hrest : ∀ c, rest.head? = some c → p c = false) : (run ++ rest).takeWhile p = run := by
  rw [List.takeWhile_append_of_pos hrun]
  cases rest with
  | nil => simp
  | cons c rest => simp [hrest c rfl]

theorem dropWhile_append_eq {p : Char → Bool} {run rest : List Char} (hrun : ∀ c ∈ run, p c = true)
    (hrest : ∀ c, rest.head? = some c → p c = false) : (run ++ rest).dropWhile p = rest := by
  rw [List.dropWhile_append_of_pos hrun, dropWhile_eq_self_of_head? hrest]

/-- A run of a class at the end of a text starts where the character before it is outside the
class. -/
theorem dropEndWhile_append_eq {p : Char → Bool} {kept run : List Char}
    (hrun : ∀ c ∈ run, p c = true)
    (hkept : ∀ c, kept.getLast? = some c → p c = false) : dropEndWhile p (kept ++ run) = kept := by
  rw [dropEndWhile_eq_rdropWhile, List.rdropWhile, List.reverse_append,
    List.dropWhile_append_of_pos (by simpa using hrun),
    dropWhile_eq_self_of_head? (by simpa using hkept), List.reverse_reverse]

theorem append_trimStart (text : List Char) : text.takeWhile isBlank ++ trimStart text = text :=
  List.takeWhile_append_dropWhile

theorem trimStart_append_cons {gap rest : List Char} {c : Char} (hgap : ∀ d ∈ gap, isBlank d = true)
    (hc : isBlank c = false) : trimStart (gap ++ c :: rest) = c :: rest := by
  refine dropWhile_append_eq hgap fun d hd => ?_
  obtain rfl := Option.some.inj hd
  exact hc

theorem trim_eq_self {text : List Char} (hfirst : ∀ c, text.head? = some c → isBlank c = false)
    (hlast : ∀ c, text.getLast? = some c → isBlank c = false) : trim text = text := by
  rw [trim, trimStart, trimEnd, dropWhile_eq_self_of_head? hfirst, dropEndWhile_eq_self hlast]

theorem trim_of_ends {text : List Char} {first last : Char} (hfirst : text.head? = some first)
    (hlast : text.getLast? = some last) (hblank : isBlank first = false)
    (hblank' : isBlank last = false) :
    trim text = text := by
  refine trim_eq_self (fun c hc => ?_) fun c hc => ?_
  · obtain rfl := Option.some.inj (hfirst.symm.trans hc)
    exact hblank
  · obtain rfl := Option.some.inj (hlast.symm.trans hc)
    exact hblank'

/-- A text between two characters that are no blanks is trimmed. -/
theorem trim_between {first last : Char} (hfirst : isBlank first = false)
    (hlast : isBlank last = false)
    (inner : List Char) : trim (first :: (inner ++ [last])) = first :: (inner ++ [last]) :=
  trim_of_ends rfl (by rw [← List.cons_append, List.getLast?_concat]) hfirst hlast

theorem getLast?_trim {text : List Char} {c : Char} (h : (trim text).getLast? = some c) :
    isBlank c = false := getLast?_dropEndWhile h

theorem head?_trim {text : List Char} {c : Char} (h : (trim text).head? = some c) :
    isBlank c = false := by
  obtain ⟨kept, hkept⟩ := isPrefix_dropEndWhile isBlank (text.dropWhile isBlank)
  have hstart : (text.dropWhile isBlank).head? = some c := by
    rw [← hkept, List.head?_append]
    exact Option.or_eq_some_iff.2 (Or.inl h)
  have hnot := List.head?_dropWhile_not isBlank text
  rw [hstart] at hnot
  simpa using hnot

/-- A text that ends with no blank is trimmed at its start. -/
theorem trim_eq_trimStart {text : List Char} (h : ∀ c, text.getLast? = some c → isBlank c = false) :
    trim text = trimStart text := by
  refine dropEndWhile_eq_self fun c hc => h c ?_
  rw [← append_trimStart text, List.getLast?_append, hc]
  rfl

@[simp] theorem trim_trim (text : List Char) : trim (trim text) = trim text :=
  trim_eq_self (fun _ => head?_trim) fun _ => getLast?_trim

theorem trimEnd_append {text after : List Char} (hafter : ∀ c ∈ after, isBlank c = true) :
    trimEnd (text ++ after) = trimEnd text := by
  rw [trimEnd, trimEnd, dropEndWhile_eq_rdropWhile, dropEndWhile_eq_rdropWhile, List.rdropWhile,
    List.rdropWhile, List.reverse_append, List.dropWhile_append_of_pos (by simpa using hafter)]

theorem trimEnd_append_of_getLast? {text after : List Char}
    (h : ∀ c, text.getLast? = some c → isBlank c = false) :
    trimEnd (text ++ after) = text ++ trimEnd after := by
  have hafter : trimEnd after ++ after.rtakeWhile isBlank = after := by
    rw [trimEnd, dropEndWhile_eq_rdropWhile, List.rdropWhile_append_rtakeWhile]
  have hkept : ∀ c, (text ++ trimEnd after).getLast? = some c → isBlank c = false := by
    intro c hc
    rcases Option.or_eq_some_iff.1 (List.getLast?_append.symm.trans hc) with hlast | ⟨-, hlast⟩
    · exact getLast?_dropEndWhile hlast
    · exact h c hlast
  conv_lhs => rw [← hafter, ← List.append_assoc]
  exact dropEndWhile_append_eq (fun c => List.mem_rtakeWhile_imp) hkept

/-- A text without blanks at its ends is kept, whatever is behind it. -/
theorem trim_append_of_ends {text after : List Char} {c : Char} (hfirst : text.head? = some c)
    (hc : isBlank c = false) (hlast : ∀ d, text.getLast? = some d → isBlank d = false) :
    trim (text ++ after) = text ++ trimEnd after := by
  obtain ⟨rest, rfl⟩ := List.head?_eq_some_iff.1 hfirst
  rw [trim, trimStart, List.cons_append, List.dropWhile_cons_of_neg (by simp [hc]),
    ← List.cons_append, trimEnd_append_of_getLast? hlast]

/-- A text that starts with no blank keeps its first character. -/
theorem head?_trim_eq {text : List Char} {c : Char} (h : text.head? = some c)
    (hc : isBlank c = false) :
    (trim text).head? = some c := by
  obtain ⟨rest, rfl⟩ := List.head?_eq_some_iff.1 h
  rw [← List.singleton_append, trim_append_of_ends (rfl : [c].head? = some c) hc]
  · rfl
  · intro d hd
    obtain rfl := Option.some.inj hd
    exact hc

theorem trim_blank_append {before : List Char} (h : ∀ c ∈ before, isBlank c = true)
    (text : List Char) :
    trim (before ++ text) = trim text := by
  rw [trim, trim, trimStart, trimStart, List.dropWhile_append_of_pos h]

theorem trim_append_blank {after : List Char} (h : ∀ c ∈ after, isBlank c = true)
    (text : List Char) :
    trim (text ++ after) = trim text := by
  rw [trim, trim, trimStart, trimStart, List.dropWhile_append]
  split_ifs with hempty
  · rw [List.dropWhile_eq_nil_iff.2 h, List.isEmpty_iff.1 hempty]
  · exact trimEnd_append h

/-- Blanks around a text do not count. -/
theorem trim_pad {before text after : List Char} (hbefore : ∀ c ∈ before, isBlank c = true)
    (hafter : ∀ c ∈ after, isBlank c = true) : trim (before ++ (text ++ after)) = trim text :=
  (trim_blank_append hbefore _).trans (trim_append_blank hafter _)

/-- A text is its trimmed text with blanks around. -/
theorem exists_pad (text : List Char) :
    ∃ before after, (∀ c ∈ before, isBlank c = true) ∧ (∀ c ∈ after, isBlank c = true) ∧
      text = before ++ (trim text ++ after) := by
  refine ⟨text.takeWhile isBlank, (text.dropWhile isBlank).rtakeWhile isBlank,
    fun _ => List.mem_takeWhile_imp, fun _ => List.mem_rtakeWhile_imp, ?_⟩
  rw [trim, trimEnd, dropEndWhile_eq_rdropWhile, trimStart, List.rdropWhile_append_rtakeWhile,
    List.takeWhile_append_dropWhile]

theorem trim_eq_nil_iff {text : List Char} : trim text = [] ↔ ∀ c ∈ text, isBlank c = true := by
  constructor
  · intro h
    obtain ⟨before, after, hbefore, hafter, htext⟩ := exists_pad text
    rw [h, List.nil_append] at htext
    rw [htext]
    exact List.forall_mem_append.2 ⟨hbefore, hafter⟩
  · intro h
    rw [trim, trimStart, List.dropWhile_eq_nil_iff.2 h]
    rfl

theorem isInfix_trim (text : List Char) : trim text <:+: text :=
  (isPrefix_dropEndWhile isBlank _).isInfix.trans (List.dropWhile_suffix isBlank).isInfix

theorem length_trim_le (text : List Char) : (trim text).length ≤ text.length :=
  (isInfix_trim text).length_le

/-- A text without its blanks. -/
def withoutBlanks (text : List Char) : List Char := text.filter (!isBlank ·)

@[simp] theorem withoutBlanks_append (first second : List Char) :
    withoutBlanks (first ++ second) = withoutBlanks first ++ withoutBlanks second :=
  List.filter_append ..

theorem withoutBlanks_eq_nil {text : List Char} (h : ∀ c ∈ text, isBlank c = true) :
    withoutBlanks text = [] := by
  rw [withoutBlanks, List.filter_eq_nil_iff]
  intro c hc
  simp [h c hc]

/-- Trimming takes nothing but blanks away. -/
@[simp] theorem withoutBlanks_trim (text : List Char) :
    withoutBlanks (trim text) = withoutBlanks text := by
  obtain ⟨before, after, hbefore, hafter, htext⟩ := exists_pad text
  conv_rhs => rw [htext]
  rw [withoutBlanks_append, withoutBlanks_append, withoutBlanks_eq_nil hbefore,
    withoutBlanks_eq_nil hafter, List.nil_append, List.append_nil]

/-- Trimming keeps every character that is no blank. -/
theorem mem_trim_iff {text : List Char} {c : Char} (hc : isBlank c = false) :
    c ∈ trim text ↔ c ∈ text := by
  have hkept : ∀ text, c ∈ withoutBlanks text ↔ c ∈ text := fun text => by simp [withoutBlanks, hc]
  rw [← hkept, withoutBlanks_trim, hkept]

/-- A text without a character of the class is one piece. -/
theorem splitAtChars_eq_singleton {p : Char → Bool} {text : List Char}
    (h : ∀ c ∈ text, p c = false) : splitAtChars p text = [text] := by
  have hfrom : ∀ (text piece : List Char), (∀ c ∈ text, p c = false) →
      splitFrom p piece text = [piece.reverse ++ text] := by
    intro text
    induction text with
    | nil => simp [splitFrom]
    | cons c rest ih =>
      intro piece h
      rw [splitFrom, if_neg (by simp [h c (by simp)]), ih _ fun d hd => h d (by simp [hd])]
      simp
  exact hfrom text [] h

end Text

@[simp] theorem toList_trimmed (s : String) : (trimmed s).toList = Text.trim s.toList := by
  simp [trimmed]

theorem trimmed_ofList_trim (text : List Char) :
    trimmed (String.ofList (Text.trim text)) = String.ofList (Text.trim text) := by
  rw [trimmed, String.toList_ofList, Text.trim_trim]

@[simp] theorem trimmed_trimmed (s : String) : trimmed (trimmed s) = trimmed s :=
  trimmed_ofList_trim s.toList

end BranchCover
