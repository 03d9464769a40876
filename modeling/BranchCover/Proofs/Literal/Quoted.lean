import BranchCover.Literal.Quoted
import BranchCover.Text.Digit
import BranchCover.Text.Word
import Mathlib.Algebra.Ring.Parity
import Mathlib.Data.List.DropRight
import Mathlib.Data.String.Basic
import Mathlib.Tactic.SplitIfs

/-!
# String literals and what they denote

The body of a string literal is made of plain characters and of pairs of a backslash and the
character that it takes with it. A text is quoted by escaping its characters one by one. That is the
same as replacing each kind of character in the whole text, one kind after another, as long as
backslashes come first. Decoding a quoted text gives the text back.

* `EscapedBody`, `splitBody_eq_some_iff`: what can stand between the quotes.
* `EscapedBody.odd_slashes`: a mark in a body stands behind a backslash of its own.
* `flatMap_escape_eq_foldl`: escaping by replacements in the whole text.
* `decode?`: what the body of a string literal denotes.
* `quote_roundTrip`: a quoted text.
-/

namespace BranchCover.Literal

variable {marks body text rest after : List Char} {c : Char}

/-! ### Bodies -/

/-- Plain characters, and pairs of a backslash and a character of the same line. No plain character
is a backslash or one of the marks. -/
inductive EscapedBody (marks : List Char) : List Char → Prop
  | nil : EscapedBody marks []
  | plain {c : Char} {rest : List Char} (hslash : c ≠ '\\') (hmark : c ∉ marks)
      (hrest : EscapedBody marks rest) :
    EscapedBody marks (c :: rest)
  | pair {c : Char} {rest : List Char} (hline : c ≠ '\n') (hrest : EscapedBody marks rest) :
    EscapedBody marks ('\\' :: c :: rest)

/-- What can stand between the quotes of a string literal. -/
abbrev StringBody : List Char → Prop := EscapedBody ['"']

theorem EscapedBody.append (h : EscapedBody marks body) (hrest : EscapedBody marks rest) :
    EscapedBody marks (body ++ rest) := by
  induction h with
  | nil => exact hrest
  | plain hslash hmark _ ih => exact .plain hslash hmark ih
  | pair hline _ ih => exact .pair hline ih

theorem EscapedBody.mono {fewer : List Char} (h : EscapedBody marks body) (hsub : fewer ⊆ marks) :
    EscapedBody fewer body := by
  induction h with
  | nil => exact .nil
  | plain hslash hmark _ ih => exact .plain hslash (mt (@hsub _) hmark) ih
  | pair hline _ ih => exact .pair hline ih

/-- The body of a string literal ends where its first unescaped quote stands. -/
theorem splitBody_eq_some_iff : splitBody text = some (body, after) ↔
    StringBody body ∧ text = body ++ '"' :: after := by
  constructor
  · intro h
    fun_induction splitBody text generalizing body with
    | case1 => cases h
    | case2 rest =>
      obtain ⟨rfl, rfl⟩ := Prod.mk.inj (Option.some.inj h)
      exact ⟨.nil, rfl⟩
    | case3 => cases h
    | case4 c rest hline ih =>
      obtain ⟨⟨behind, tail⟩, hsplit, hpair⟩ := Option.map_eq_some_iff.1 h
      obtain ⟨rfl, rfl⟩ := Prod.mk.inj hpair
      obtain ⟨hbody, rfl⟩ := ih hsplit
      exact ⟨.pair hline hbody, rfl⟩
    | case5 => cases h
    | case6 c rest hquote _ hslash ih =>
      obtain ⟨⟨behind, tail⟩, hsplit, hpair⟩ := Option.map_eq_some_iff.1 h
      obtain ⟨rfl, rfl⟩ := Prod.mk.inj hpair
      obtain ⟨hbody, rfl⟩ := ih hsplit
      exact ⟨.plain hslash (by simpa using hquote) hbody, rfl⟩
  · rintro ⟨hbody, rfl⟩
    induction hbody with
    | nil => rfl
    | plain hslash hmark _ ih =>
      rw [List.cons_append, splitBody, ih, if_neg hslash]
      · rfl
      · simpa using hmark
      · intro _ _ heq
        exact absurd heq hslash
    | pair hline _ ih =>
      rw [List.cons_append, List.cons_append, splitBody, ih, if_neg hline]
      rfl

/-- A text that is one string literal and nothing else. -/
def IsQuoted (text : List Char) : Prop := ∃ body, StringBody body ∧ text = '"' :: (body ++ ['"'])

theorem stringBody?_eq_some_iff : stringBody? text = some body ↔
    StringBody body ∧ (text = '"' :: (body ++ ['"']) ∨ text = '"' :: (body ++ ['"', '\n'])) := by
  constructor
  · intro h
    unfold stringBody? at h
    split at h
    · split at h
      · rename_i hsplit
        obtain rfl := Option.some.inj h
        obtain ⟨hbody, rfl⟩ := splitBody_eq_some_iff.1 hsplit
        exact ⟨hbody, Or.inl rfl⟩
      · rename_i hsplit
        obtain rfl := Option.some.inj h
        obtain ⟨hbody, rfl⟩ := splitBody_eq_some_iff.1 hsplit
        exact ⟨hbody, Or.inr rfl⟩
      · cases h
    · cases h
  · rintro ⟨hbody, rfl | rfl⟩
    · rw [stringBody?, splitBody_eq_some_iff.2 ⟨hbody, rfl⟩]
    · rw [stringBody?, splitBody_eq_some_iff.2 ⟨hbody, rfl⟩]
      rfl

/-! ### Backslashes -/

/-- The number of backslashes at the end of a text. -/
def slashesAtEnd (text : List Char) : ℕ := (text.rtakeWhile (· == '\\')).length

theorem slashesAtEnd_cons (c : Char) (text : List Char) : slashesAtEnd (c :: text) =
    if c = '\\' ∧ slashesAtEnd text = text.length then text.length + 1 else slashesAtEnd text := by
  simp only [slashesAtEnd, List.rtakeWhile, List.reverse_cons, List.takeWhile_append,
    List.length_reverse]
  by_cases hall : (text.reverse.takeWhile (· == '\\')).length = text.length
  · by_cases hc : c = '\\' <;> simp [hall, hc]
  · simp [hall]

theorem slashesAtEnd_le (text : List Char) : slashesAtEnd text ≤ text.length :=
  (List.rtakeWhile_suffix _ text).length_le

/-- A pair does not change whether the number of backslashes at the end is odd. -/
theorem odd_slashesAtEnd_pair (h : Odd (slashesAtEnd text)) (c : Char) :
    Odd (slashesAtEnd ('\\' :: c :: text)) := by
  rw [slashesAtEnd_cons, slashesAtEnd_cons]
  by_cases hall : c = '\\' ∧ slashesAtEnd text = text.length
  · obtain ⟨rfl, hlength⟩ := hall
    rw [hlength] at h
    simp only [hlength, List.length_cons, and_self, if_true]
    exact h.add_even even_two
  · rw [if_neg hall, if_neg]
    · exact h
    · rintro ⟨-, hlength⟩
      have := slashesAtEnd_le text
      rw [List.length_cons] at hlength
      omega

/-- **In front of a mark stands a backslash of its own.** The run of backslashes before it is odd,
so that all others are taken in pairs. -/
theorem EscapedBody.odd_slashes (h : EscapedBody marks body) (hslash : '\\' ∉ marks)
    (hc : c ∈ marks) {before : List Char}
    (hbody : body = before ++ c :: after) : Odd (slashesAtEnd before) := by
  induction h generalizing before with
  | nil => simp at hbody
  | plain hplain hmark _ ih =>
    cases before with
    | nil =>
      obtain rfl := (List.cons.inj hbody).1
      exact absurd hc hmark
    | cons d before =>
      obtain ⟨rfl, hrest⟩ := List.cons.inj hbody
      rw [slashesAtEnd_cons, if_neg (by simp [hplain])]
      exact ih hrest
  | pair _ _ ih =>
    match before, hbody with
    | [], hbody =>
      obtain rfl := (List.cons.inj hbody).1
      exact absurd hc hslash
    | [d], hbody =>
      obtain rfl := (List.cons.inj hbody).1
      decide
    | d :: e :: before, hbody =>
      simp only [List.cons_append, List.cons.injEq] at hbody
      obtain ⟨rfl, rfl, hrest⟩ := hbody
      exact odd_slashesAtEnd_pair (ih hrest) _

/-! ### Escapes -/

/-- A text with a character replaced by another text. -/
def replaceAll (text : List Char) (change : Char × List Char) : List Char :=
  text.flatMap fun c => if c = change.1 then change.2 else [c]

/-- The characters that are escaped, in the order in which a whole text is rid of them. Backslashes
come first, since the other escapes hold new ones. -/
def replacements : List (Char × List Char) :=
  [('\\', ['\\', '\\']), ('"', ['\\', '"']), ('\n', ['\\', 'n']), ('\t', ['\\', 't']),
   ('\r', ['\\', 'r']), ('\x00', ['\\', 'u', '0', '0', '0', '0']), ('$', ['\\', '$'])]

theorem foldl_replaceAll_flatMap (changes : List (Char × List Char)) (image : Char → List Char)
    (text : List Char) :
    changes.foldl replaceAll (text.flatMap image) = text.flatMap fun c =>
      changes.foldl replaceAll (image c) := by
  induction changes generalizing image with
  | nil => rfl
  | cons change changes ih =>
    rw [List.foldl_cons, replaceAll, List.flatMap_assoc]
    exact ih _

/-- How a character is escaped: not at all, or as one of the replacements says. -/
theorem escape_cases (c : Char) : (c, escape c) ∈ replacements ∨ c ∉ replacements.map Prod.fst ∧
    escape c = [c] := by
  unfold escape
  split_ifs with h₁ h₂ h₃ h₄ h₅ h₆ h₇
  · exact Or.inl (by rw [h₁]; decide)
  · exact Or.inl (by rw [h₂]; decide)
  · exact Or.inl (by rw [h₃]; decide)
  · exact Or.inl (by rw [h₄]; decide)
  · exact Or.inl (by rw [h₅]; decide)
  · exact Or.inl (by rw [h₆]; decide)
  · exact Or.inl (by rw [h₇]; decide)
  · exact Or.inr ⟨by simp [replacements, *], rfl⟩

theorem foldl_replaceAll_of_notMem {changes : List (Char × List Char)}
    (h : c ∉ changes.map Prod.fst) :
    changes.foldl replaceAll [c] = [c] := by
  induction changes with
  | nil => rfl
  | cons change changes ih =>
    obtain ⟨hchange, hchanges⟩ := not_or.1 (mt List.mem_cons.2 h)
    have hkept : replaceAll [c] change = [c] := by simp [replaceAll, hchange]
    rw [List.foldl_cons, hkept, ih hchanges]

/-- **Escaping the characters of a text is replacing them in the whole text, one kind after
another.** -/
theorem flatMap_escape_eq_foldl (text : List Char) :
    text.flatMap escape = replacements.foldl replaceAll text := by
  have hsingle : ∀ c, replacements.foldl replaceAll [c] = escape c := by
    intro c
    rcases escape_cases c with hmem | ⟨hnot, hplain⟩
    · have hall : ∀ change ∈ replacements, replacements.foldl replaceAll [change.1] = change.2 := by
        decide
      have hescape := hall _ hmem
      dsimp only at hescape
      exact hescape
    · rw [foldl_replaceAll_of_notMem hnot, hplain]
  have hfold := foldl_replaceAll_flatMap replacements (fun c => [c]) text
  rw [List.flatMap_singleton'] at hfold
  rw [hfold]
  simp only [hsingle]

/-- The characters that stand in a quoted text only as the second of a pair, or not at all. -/
def quotedMarks : List Char := ['"', '$', '\n', '\r', '\t', '\x00']

/-- How a character is escaped is part of a body, and stands on its line. -/
theorem escapedBody_escape (c : Char) :
    EscapedBody quotedMarks (escape c) ∧ ∀ d ∈ escape c, d ∉ ['\n', '\r', '\t', '\x00'] := by
  rcases escape_cases c with hmem | ⟨hnot, hplain⟩
  · have hpair : ∀ second, second ≠ '\n' → EscapedBody quotedMarks ['\\', second] :=
      fun _ h => .pair h .nil
    have hzero : EscapedBody quotedMarks ['0', '0', '0', '0'] := by
      repeat' first | exact .nil | refine .plain (by decide) (by decide) ?_
    have hbody : ∀ change ∈ replacements, EscapedBody quotedMarks change.2 := by
      simp only [replacements, List.forall_mem_cons, List.not_mem_nil, false_imp_iff, implies_true,
        and_true]
      refine ⟨?_, ?_, ?_, ?_, ?_, .pair (by decide) hzero, ?_⟩ <;> exact hpair _ (by decide)
    have hline : ∀ change ∈ replacements, ∀ d ∈ change.2, d ∉ ['\n', '\r', '\t', '\x00'] := by
      simp only [replacements, List.forall_mem_cons, List.not_mem_nil, false_imp_iff, implies_true,
        and_true]
      decide
    exact ⟨hbody _ hmem, hline _ hmem⟩
  · have hmarks : quotedMarks ⊆ replacements.map Prod.fst := by decide
    rw [hplain]
    refine ⟨.plain ?_ (mt (@hmarks c) hnot) .nil, ?_⟩
    · rintro rfl
      exact hnot (by decide)
    · rintro d hd hline
      obtain rfl := List.mem_singleton.1 hd
      have hsub : ['\n', '\r', '\t', '\x00'] ⊆ replacements.map Prod.fst := by decide
      exact hnot (hsub hline)

theorem escapedBody_flatMap_escape (text : List Char) :
    EscapedBody quotedMarks (text.flatMap escape) := by
  induction text with
  | nil => exact .nil
  | cons c text ih =>
    rw [List.flatMap_cons]
    exact (escapedBody_escape c).1.append ih

/-! ### Decoding -/

/-- The value of a hexadecimal digit. -/
def hexDigit? (c : Char) : Option ℕ := "0123456789abcdef".toList.idxOf? c.toLower

/-- The character with a code of hexadecimal digits. A code that stands for half a character denotes
none. -/
def coded? (digits : List Char) : Option Char := do
  let values ← digits.mapM hexDigit?
  let code := values.foldl (16 * · + ·) 0
  if code.isValidChar then some (Char.ofNat code) else none

/-- The characters that a letter behind a backslash stands for. -/
def escapeLetters : List (Char × Char) :=
  [('t', '\t'), ('b', '\x08'), ('n', '\n'), ('r', '\r'), ('\'', '\''), ('"', '"'), ('\\', '\\'),
    ('$', '$')]

/-- Whether a dollar sign in front of a text starts a template: a name, a name in backquotes or an
expression in braces follows it. -/
def startsTemplate (text : List Char) : Bool :=
  text.head?.any fun c => c == '{' || c == '`' || (Text.isWord c && !Text.isDecimal c)

/-- The text that the body of a string literal denotes, if it is well formed and has no
templates. -/
def decode? : List Char → Option (List Char)
  | [] => some []
  | '\\' :: 'u' :: a :: b :: c :: d :: rest =>
    (coded? [a, b, c, d]).bind fun meant => (decode? rest).map (meant :: ·)
  | '\\' :: letter :: rest => (escapeLetters.lookup letter).bind fun meant =>
      (decode? rest).map (meant :: ·)
  | c :: rest =>
    if c = '\\' ∨ c = '"' ∨ c = '\n' ∨ (c = '$' ∧ startsTemplate rest) then none
      else (decode? rest).map (c :: ·)

/-- An escaped character denotes the character. -/
theorem decode?_escape_append (c : Char) (rest : List Char) :
    decode? (escape c ++ rest) = (decode? rest).map (c :: ·) := by
  rcases escape_cases c with hmem | ⟨hnot, hplain⟩
  · have hall : ∀ change ∈ replacements,
        decode? (change.2 ++ rest) = (decode? rest).map (change.1 :: ·) := by
      simp only [replacements, List.forall_mem_cons, List.not_mem_nil, false_imp_iff, implies_true,
        and_true]
      refine ⟨?_, ?_, ?_, ?_, ?_, ?_, ?_⟩ <;> rfl
    exact hall _ hmem
  · have hne : ∀ key ∈ replacements.map Prod.fst, c ≠ key := by
      rintro key hkey rfl
      exact hnot hkey
    have hslash := hne '\\' (by decide)
    rw [hplain, List.singleton_append, decode?, if_neg]
    · rintro (h | h | h | ⟨h, -⟩) <;> exact hne _ (by decide) h
    · exact fun _ _ _ _ _ heq => absurd heq hslash
    · exact fun _ _ heq => absurd heq hslash

theorem decode?_flatMap_escape (text : List Char) : decode? (text.flatMap escape) = some text := by
  induction text with
  | nil => rfl
  | cons c text ih => rw [List.flatMap_cons, decode?_escape_append, ih, Option.map_some]

/-! ### Quoted texts -/

theorem toList_quote (text : String) :
    (quote text).toList = '"' :: (text.toList.flatMap escape ++ ['"']) := by
  rw [quote, String.toList_ofList, quoteChars, List.cons_append]

theorem stringBody?_quote (text : String) :
    stringBody? (quote text).toList = some (text.toList.flatMap escape) :=
  stringBody?_eq_some_iff.2
    ⟨(escapedBody_flatMap_escape _).mono (by simp [quotedMarks]), Or.inl (toList_quote text)⟩

theorem isString_quote (text : String) : isString (quote text).toList = true := by
  rw [isString, stringBody?_quote, Option.isSome_some]

theorem quote_injective : Function.Injective quote := by
  intro text other h
  have hbody := stringBody?_quote text
  rw [h, stringBody?_quote] at hbody
  have hdecoded := decode?_flatMap_escape text.toList
  rw [← Option.some.inj hbody, decode?_flatMap_escape] at hdecoded
  exact (String.toList_inj.1 (Option.some.inj hdecoded)).symm

/-- **Quoting a text is undone by decoding.** The quoted text is one string literal. Its body is the
text with seven kinds of characters replaced, one kind after another, has no line feed, carriage
return, tab or null character, and each quote or dollar sign in it stands behind a backslash of its
own. It denotes the text, so different texts are quoted differently. -/
theorem quote_roundTrip :
    (∀ text : String, ∃ body, (quote text).toList = '"' :: (body ++ ['"']) ∧
      stringBody? (quote text).toList = some body ∧
      body = replacements.foldl replaceAll text.toList ∧
      (∀ c ∈ body, c ∉ ['\n', '\r', '\t', '\x00']) ∧
      (∀ before c after, body = before ++ c :: after → c = '"' ∨ c = '$' →
        Odd (slashesAtEnd before)) ∧
      decode? body = some text.toList) ∧
    Function.Injective quote := by
  refine ⟨fun text => ⟨text.toList.flatMap escape, toList_quote text, stringBody?_quote text,
    flatMap_escape_eq_foldl _, fun c hc => ?_, fun before c after hbody hc => ?_,
    decode?_flatMap_escape _⟩, quote_injective⟩
  · obtain ⟨d, -, hd⟩ := List.mem_flatMap.1 hc
    exact (escapedBody_escape d).2 c hd
  · have hmark : c ∈ quotedMarks := by rcases hc with rfl | rfl <;> decide
    exact (escapedBody_flatMap_escape text.toList).odd_slashes (by decide) hmark hbody

/-- A backslash and a quote: the second backslash of the literal is taken by the first, the quote by
the third. -/
theorem quote_roundTrip_slash :
    ∃ body, (quote "\\\"").toList = '"' :: (body ++ ['"']) ∧
      body = ['\\', '\\', '\\'] ++ '"' :: [] ∧
      Odd (slashesAtEnd ['\\', '\\', '\\']) ∧ decode? body = some ['\\', '"'] := by
  obtain ⟨body, htext, hbody, -, -, hodd, hdecode⟩ := quote_roundTrip.1 "\\\""
  have hchars : body = ['\\', '\\', '\\'] ++ '"' :: [] := by
    rw [stringBody?_quote] at hbody
    rw [← Option.some.inj hbody]
    decide
  refine ⟨body, htext, hchars, hodd _ _ _ hchars (Or.inl rfl), hdecode.trans ?_⟩
  decide

end BranchCover.Literal
