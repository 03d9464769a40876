import BranchCover.Oracle.Assertion
import BranchCover.Proofs.Literal.Quoted
import BranchCover.Proofs.Text.Trim

/-!
# Entries that are string literals

The test of a `when` entry of a textual function asks for a result that contains the entry. The
entry loses the quotes at its ends and is quoted again, so its escapes are escaped once more: the
text that is asked for is the one that the entry denotes exactly if the entry has no backslash. A
raw literal has no escapes, but loses quotes of its own at its ends.

* `Denotes`: the text that a string literal denotes, escaped or raw.
* `denotes_quote_iff`: what a quoted text denotes.
* `toList_entryName`, `toList_entryName_raw`: what is left of an entry.
* `forWhenEntry_literal`: what the check of an entry asks for.
-/

namespace BranchCover

namespace Literal

variable {body meant text : List Char}

/-! ### What a literal denotes -/

/-- What can stand between the three quotes at either end of a raw literal: three quotes in a row
stand only at its end, and no dollar sign starts a template. -/
structure RawBody (body : List Char) : Prop where
  quotes : ∀ rest ∈ body.tails, ['"', '"', '"'] <+: rest → rest = List.replicate rest.length '"'
  templates : ∀ rest ∈ body.tails, rest.head? = some '$' → startsTemplate rest.tail = false

instance (body : List Char) : Decidable (RawBody body) :=
  decidable_of_iff ((∀ rest ∈ body.tails, ['"', '"', '"'] <+: rest →
    rest = List.replicate rest.length '"') ∧
      ∀ rest ∈ body.tails, rest.head? = some '$' → startsTemplate rest.tail = false)
    ⟨fun ⟨hquotes, htemplates⟩ => ⟨hquotes, htemplates⟩, fun h => ⟨h.quotes, h.templates⟩⟩

/-- The text that a string literal without templates denotes. In a raw literal a backslash means
nothing. -/
inductive Denotes : List Char → List Char → Prop
  | escaped {body meant : List Char} (h : decode? body = some meant) :
      Denotes ('"' :: (body ++ ['"'])) meant
  | raw {body : List Char} (h : RawBody body) :
      Denotes ('"' :: '"' :: '"' :: (body ++ ['"', '"', '"'])) body

/-- No body of a string literal starts with a quote. -/
theorem head?_stringBody (h : StringBody body) : body.head? ≠ some '"' := by
  cases h with
  | nil => simp
  | plain _ hmark _ => simpa using hmark
  | pair _ _ => simp

/-- A literal between two quotes is not a raw one. -/
theorem denotes_escaped_iff (hbody : StringBody body) :
    Denotes ('"' :: (body ++ ['"'])) meant ↔ decode? body = some meant := by
  constructor
  · intro h
    generalize hliteral : '"' :: (body ++ ['"']) = literal at h
    cases h with
    | escaped hdecode =>
      obtain rfl := List.append_cancel_right (List.cons.inj hliteral).2
      exact hdecode
    | raw =>
      have hrest := (List.cons.inj hliteral).2
      cases body with
      | nil => simp at hrest
      | cons c body =>
        obtain rfl := (List.cons.inj hrest).1
        exact absurd rfl (head?_stringBody hbody)
  · exact .escaped

/-- **A quoted text denotes the text and no other.** -/
theorem denotes_quote_iff {text : String} : Denotes (quote text).toList meant ↔
    meant = text.toList := by
  have hbody : StringBody (text.toList.flatMap escape) :=
    (escapedBody_flatMap_escape _).mono (by simp [quotedMarks])
  rw [toList_quote, denotes_escaped_iff hbody, decode?_flatMap_escape, Option.some.injEq, eq_comm]

/-! ### Escapes make a text shorter -/

/-- A body without backslashes denotes itself, and has no quote. -/
theorem eq_of_decode? (h : decode? body = some meant) (hslash : '\\' ∉ body) :
    meant = body ∧ '"' ∉ body := by
  fun_induction decode? body generalizing meant with
  | case1 =>
    obtain rfl := Option.some.inj h
    exact ⟨rfl, List.not_mem_nil⟩
  | case2 => exact absurd List.mem_cons_self hslash
  | case3 => exact absurd List.mem_cons_self hslash
  | case4 => cases h
  | case5 c rest _ _ hc ih =>
    obtain ⟨behind, hbehind, rfl⟩ := Option.map_eq_some_iff.1 h
    obtain ⟨rfl, hquote⟩ := ih hbehind fun hmem => hslash (List.mem_cons_of_mem _ hmem)
    refine ⟨rfl, fun hmem => ?_⟩
    rcases List.mem_cons.1 hmem with rfl | hmem
    · simp at hc
    · exact hquote hmem

/-- A text is not longer than a body that denotes it, and shorter than one with backslashes. -/
theorem length_of_decode? (h : decode? body = some meant) :
    meant.length ≤ body.length ∧ ('\\' ∈ body → meant.length < body.length) := by
  fun_induction decode? body generalizing meant with
  | case1 =>
    obtain rfl := Option.some.inj h
    simp
  | case2 a b c d rest ih =>
    obtain ⟨letter, -, h⟩ := Option.bind_eq_some_iff.1 h
    obtain ⟨behind, hbehind, rfl⟩ := Option.map_eq_some_iff.1 h
    have := (ih hbehind).1
    simp only [List.length_cons]
    omega
  | case3 letter rest _ ih =>
    obtain ⟨letter, -, h⟩ := Option.bind_eq_some_iff.1 h
    obtain ⟨behind, hbehind, rfl⟩ := Option.map_eq_some_iff.1 h
    have := (ih hbehind).1
    simp only [List.length_cons]
    omega
  | case4 => cases h
  | case5 c rest _ _ hc ih =>
    obtain ⟨behind, hbehind, rfl⟩ := Option.map_eq_some_iff.1 h
    obtain ⟨hle, hlt⟩ := ih hbehind
    simp only [List.length_cons, Nat.add_le_add_iff_right, Nat.add_lt_add_iff_right]
    refine ⟨hle, fun hmem => ?_⟩
    rcases List.mem_cons.1 hmem with rfl | hmem
    · simp at hc
    · exact hlt hmem

theorem coded?_quote (a b c : Char) : coded? [a, b, c, '"'] = none := by
  have hquote : hexDigit? '"' = none := by decide
  cases ha : hexDigit? a <;> cases hb : hexDigit? b <;> cases hc : hexDigit? c <;>
    simp [coded?, ha, hb, hc, hquote]

/-- Where a body ends with a quote, the text that it denotes does. -/
theorem getLast?_of_decode? (h : decode? body = some meant) (hlast : body.getLast? = some '"') :
    meant.getLast? = some '"' := by
  fun_induction decode? body generalizing meant with
  | case1 => cases hlast
  | case2 a b c d rest ih =>
    obtain ⟨letter, hletter, h⟩ := Option.bind_eq_some_iff.1 h
    obtain ⟨behind, hbehind, rfl⟩ := Option.map_eq_some_iff.1 h
    cases rest with
    | nil =>
      obtain rfl : d = '"' := by simpa using hlast
      simp [coded?_quote] at hletter
    | cons e rest =>
      have hrest := ih hbehind (by simpa using hlast)
      rw [List.getLast?_cons, hrest, Option.getD_some]
  | case3 letter rest _ ih =>
    obtain ⟨shown, hshown, h⟩ := Option.bind_eq_some_iff.1 h
    obtain ⟨behind, hbehind, rfl⟩ := Option.map_eq_some_iff.1 h
    cases rest with
    | nil =>
      obtain rfl : letter = '"' := by simpa using hlast
      obtain rfl := Option.some.inj hbehind
      obtain rfl : '"' = shown := Option.some.inj hshown
      rfl
    | cons e rest =>
      have hrest := ih hbehind (by simpa using hlast)
      rw [List.getLast?_cons, hrest, Option.getD_some]
  | case4 => cases h
  | case5 c rest _ _ hc ih =>
    obtain ⟨behind, hbehind, rfl⟩ := Option.map_eq_some_iff.1 h
    cases rest with
    | nil =>
      obtain rfl : c = '"' := by simpa using hlast
      simp at hc
    | cons e rest =>
      have hrest := ih hbehind (by simpa using hlast)
      rw [List.getLast?_cons, hrest, Option.getD_some]

/-! ### Bodies without the quotes at their ends -/

theorem dropWhile_quote_eq_self (h : text.head? ≠ some '"') : text.dropWhile (· == '"') = text := by
  refine Text.dropWhile_eq_self_of_head? fun c hc => ?_
  rw [beq_eq_false_iff_ne]
  rintro rfl
  exact h hc

theorem dropEndWhile_quote_eq_self (h : text.getLast? ≠ some '"') :
    Text.dropEndWhile (· == '"') text = text := by
  refine Text.dropEndWhile_eq_self fun c hc => ?_
  rw [beq_eq_false_iff_ne]
  rintro rfl
  exact h hc

/-- **A body without the quotes at its end is the text that it denotes exactly if it has no
backslash.** -/
theorem dropEndWhile_eq_iff (h : decode? body = some meant) :
    Text.dropEndWhile (· == '"') body = meant ↔ '\\' ∉ body := by
  constructor
  · rintro hmeant hslash
    have hopen : body.getLast? ≠ some '"' := by
      intro hlast
      have hquote := getLast?_of_decode? h hlast
      rw [← hmeant] at hquote
      have := Text.getLast?_dropEndWhile hquote
      simp at this
    have hshorter := (length_of_decode? h).2 hslash
    rw [← hmeant, dropEndWhile_quote_eq_self hopen] at hshorter
    exact absurd hshorter (Nat.lt_irrefl _)
  · intro hslash
    obtain ⟨rfl, hquote⟩ := eq_of_decode? h hslash
    exact dropEndWhile_quote_eq_self fun hlast => hquote (List.mem_of_getLast? hlast)

end Literal

namespace Oracle

open Literal (StringBody RawBody Denotes)

variable {function : FunctionDecl} {entry : String} {inner : List Char}

/-- Quotes behind a text are dropped with those at its ends. -/
theorem strip_append_quotes (text : List Char) {quotes : List Char}
    (hquotes : ∀ c ∈ quotes, (c == '"') = true) :
    Text.dropEndWhile (· == '"') ((text ++ quotes).dropWhile (· == '"')) =
      Text.dropEndWhile (· == '"') (text.dropWhile (· == '"')) := by
  rw [List.dropWhile_append]
  split_ifs with hempty
  · rw [List.isEmpty_iff.1 hempty, List.dropWhile_eq_nil_iff.2 hquotes]
  · rw [Text.dropEndWhile_eq_rdropWhile, Text.dropEndWhile_eq_rdropWhile, List.rdropWhile,
      List.rdropWhile, List.reverse_append, List.dropWhile_append_of_pos (by simpa using hquotes)]

theorem toList_entryName (h : StringBody inner)
    (hentry : Text.trim entry.toList = '"' :: (inner ++ ['"'])) :
    (entryName entry).toList = Text.dropEndWhile (· == '"') inner := by
  rw [entryName, hentry, String.toList_ofList, List.dropWhile_cons_of_pos (by decide),
    strip_append_quotes _ (by simp), Literal.dropWhile_quote_eq_self (Literal.head?_stringBody h)]

theorem toList_entryName_raw
    (hentry : Text.trim entry.toList = '"' :: '"' :: '"' :: (inner ++ ['"', '"', '"'])) :
    (entryName entry).toList = Text.dropEndWhile (· == '"') (inner.dropWhile (· == '"')) := by
  rw [entryName, hentry, String.toList_ofList, List.dropWhile_cons_of_pos (by decide),
    List.dropWhile_cons_of_pos (by decide), List.dropWhile_cons_of_pos (by decide),
    strip_append_quotes _ (by simp)]

/-- A text keeps both its ends exactly if neither is a quote. -/
theorem strip_eq_self_iff : Text.dropEndWhile (· == '"') (inner.dropWhile (· == '"')) = inner ↔
    inner.head? ≠ some '"' ∧ inner.getLast? ≠ some '"' := by
  constructor
  · intro h
    have hstart : inner.dropWhile (· == '"') = inner := by
      refine (List.dropWhile_suffix _).eq_of_length_le ?_
      rw [← congrArg List.length h]
      exact (Text.isPrefix_dropEndWhile _ _).length_le
    refine ⟨fun hhead => ?_, fun hlast => ?_⟩
    · have hnot := List.head?_dropWhile_not (· == '"') inner
      rw [hstart, hhead] at hnot
      simp at hnot
    · rw [← h] at hlast
      have := Text.getLast?_dropEndWhile hlast
      simp at this
  · rintro ⟨hhead, hlast⟩
    rw [Literal.dropWhile_quote_eq_self hhead, Literal.dropEndWhile_quote_eq_self hlast]

/-- The check that the result of a function contains a literal. -/
def entryCheck (function : FunctionDecl) (literal : String) : Assertion where
  kind := .contains
  expected := some literal
  message := "Result should reflect the when branch condition"
  subject := resultOf function

/-- The heuristic test of an entry that starts with a quote quotes what is left of the entry. -/
theorem forWhenEntry_textual (htextual : TypeText.family function.returnType = .textual)
    (hquote : (Text.trim entry.toList).head? = some '"') (bindings : Bindings)
    (body subjectName : Option String) :
    forWhenEntry .heuristic function entry bindings body subjectName =
      .ok [basicCheck, entryCheck function (Literal.quote (entryName entry))] := by
  have helse : entry ≠ "else" := by
    rintro rfl
    exact absurd hquote (by decide)
  simp [forWhenEntry, heuristicEntry, htextual, helse, entryCheck]

/-- **What the check of a string literal asks for.** For a function with a textual result, the
heuristic test of an entry that is a string literal asks for a result that contains another literal.
If the entry is an escaped literal, the other one denotes its body as it is written, without a quote
at its end; that is what the entry denotes exactly if it has no backslash. If the entry is a raw
literal, the other one denotes its text without the quotes at its ends; that is what the entry
denotes exactly if it has none there. -/
theorem forWhenEntry_literal (htextual : TypeText.family function.returnType = .textual)
    (bindings : Bindings)
    (body subjectName : Option String) :
    (StringBody inner → Text.trim entry.toList = '"' :: (inner ++ ['"']) →
      ∃ literal, forWhenEntry .heuristic function entry bindings body subjectName =
          .ok [basicCheck, entryCheck function literal] ∧
        Denotes literal.toList (Text.dropEndWhile (· == '"') inner) ∧
        ∀ meant, Denotes (Text.trim entry.toList) meant →
          (Denotes literal.toList meant ↔ '\\' ∉ inner)) ∧
    (RawBody inner → Text.trim entry.toList = '"' :: '"' :: '"' :: (inner ++ ['"', '"', '"']) →
      ∃ literal, forWhenEntry .heuristic function entry bindings body subjectName =
          .ok [basicCheck, entryCheck function literal] ∧
        Denotes literal.toList (Text.dropEndWhile (· == '"') (inner.dropWhile (· == '"'))) ∧
        (Denotes literal.toList inner ↔ inner.head? ≠ some '"' ∧ inner.getLast? ≠ some '"')) := by
  refine ⟨fun hbody hentry => ?_, fun hbody hentry => ?_⟩
  · refine ⟨_, forWhenEntry_textual htextual (by rw [hentry]; rfl) bindings body subjectName, ?_⟩
    simp only [Literal.denotes_quote_iff, toList_entryName hbody hentry, true_and]
    intro meant hmeant
    rw [hentry, Literal.denotes_escaped_iff hbody] at hmeant
    rw [eq_comm, Literal.dropEndWhile_eq_iff hmeant]
  · refine ⟨_, forWhenEntry_textual htextual (by rw [hentry]; rfl) bindings body subjectName, ?_⟩
    simp only [Literal.denotes_quote_iff, toList_entryName_raw hentry, true_and]
    rw [eq_comm, strip_eq_self_iff]

/-- A function with a text as result. -/
def describe : FunctionDecl where
  name := "describe"
  qualifiedName := "describe"
  file := "a.kt"
  line := 1
  endLine := 1
  scope := "function:describe"
  returnType := "String"

/-- The escaped literal `"cost: $5"`, with a dollar sign that starts no template, is asked for as it
is; the raw literal `""""a""""` loses the quotes of its text. -/
theorem forWhenEntry_literal_cost :
    (∃ literal, forWhenEntry .heuristic describe "\"cost: $5\"" [] none none =
        .ok [basicCheck, entryCheck describe literal] ∧ Denotes literal.toList "cost: $5".toList) ∧
      ∃ literal, forWhenEntry .heuristic describe "\"\"\"\"a\"\"\"\"" [] none none =
        .ok [basicCheck, entryCheck describe literal] ∧ Denotes literal.toList ['a'] ∧
          ¬Denotes literal.toList "\"a\"".toList := by
  have htextual : TypeText.family describe.returnType = .textual := by decide
  have hcost : Text.trim "\"cost: $5\"".toList = '"' :: ("cost: $5".toList ++ ['"']) := by decide
  have hquoted : Text.trim "\"\"\"\"a\"\"\"\"".toList =
      '"' :: '"' :: '"' :: ("\"a\"".toList ++ ['"', '"', '"']) := by
    decide
  have hsplit : Literal.splitBody ("cost: $5".toList ++ ['"']) = some ("cost: $5".toList, []) := by
    decide
  have hbody : StringBody "cost: $5".toList := (Literal.splitBody_eq_some_iff.1 hsplit).1
  have hmeant : Denotes ('"' :: ("cost: $5".toList ++ ['"'])) "cost: $5".toList :=
    .escaped (by decide)
  obtain ⟨cost, hcheck, -, hdenotes⟩ := (forWhenEntry_literal htextual [] none none).1 hbody hcost
  obtain ⟨quoted, hcheck', hdenotes', hsame⟩ :=
    (forWhenEntry_literal htextual [] none none).2 (by decide) hquoted
  exact ⟨⟨cost, hcheck, (hdenotes _ (hcost ▸ hmeant)).2 (by decide)⟩, quoted, hcheck', hdenotes',
    mt hsame.1 (by decide)⟩

/-- The entry `"a\nb"` denotes two lines, and its test asks for one line with a backslash. -/
theorem forWhenEntry_escape :
    Denotes "\"a\\nb\"".toList "a\nb".toList ∧
      forWhenEntry .heuristic describe "\"a\\nb\"" [] none none =
        .ok [basicCheck, entryCheck describe "\"a\\\\nb\""] ∧
      ¬Denotes "\"a\\\\nb\"".toList "a\nb".toList := by
  have hentry : Denotes ('"' :: ("a\\nb".toList ++ ['"'])) "a\nb".toList := .escaped (by decide)
  have hquote : "\"a\\\\nb\"" = Literal.quote "a\\nb" := by decide
  refine ⟨hentry, by decide, ?_⟩
  rw [hquote, Literal.denotes_quote_iff]
  decide

end Oracle

end BranchCover
