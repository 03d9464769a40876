import BranchCover.Proofs.ArgumentList

/-!
# Arguments joined to a list

Arguments that are joined with commas between them are found again by taking the list apart, as long
as every comma in one of them stands in a bracket or in a literal, and every one but the last closes
what it opens. The other way around, the arguments of a list tell what the list was, up to blanks
and one comma at its end.

* `scan_append_blanks`: the blanks before an argument do not count.
* `split_append_eq_cons_iff`: when the first argument is found again.
* `split_intercalate_eq_self_iff`: when all of them are.
* `withoutBlanks_scan`: what a scan keeps of a text.
* `split_joined`: taking apart and joining undo each other.
-/

namespace BranchCover.ArgumentList

variable {argument rest : String} {arguments others : List String}

/-! ### Taking a joined list apart -/

/-- Blanks before an argument do not count. -/
theorem scan_append_blanks {blanks : List Char} (h : ∀ c ∈ blanks, Text.isBlank c = true)
    (point : Point)
    (read text : List Char) :
    scan (read ++ blanks) point.depth point.quoting text =
      scan read point.depth point.quoting text := by
  have htrim : ∀ read : List Char, Text.trim (read ++ blanks).reverse = Text.trim read.reverse := by
    intro read
    rw [List.reverse_append]
    exact Text.trim_blank_append (by simpa using h) _
  induction text generalizing point read with
  | nil => rw [scan, scan, closeLast, closeLast, htrim]
  | cons c text ih => rw [scan_cons, scan_cons, htrim, ← List.cons_append, ih]

theorem scan_blank_cons (text : List Char) :
    scan [] 0 .outside (' ' :: text) = scan [] 0 .outside text :=
  scan_append_blanks (List.forall_mem_singleton.2 (by decide : Text.isBlank ' ' = true)) {} [] text

/-- A text with a comma behind another does not trim to that one. -/
theorem trim_append_comma_ne (text behind : List Char) :
    Text.trim (text ++ ',' :: behind) ≠ text := by
  intro h
  have hkept := Text.withoutBlanks_trim (text ++ ',' :: behind)
  rw [h, Text.withoutBlanks_append, List.self_eq_append_right, Text.withoutBlanks,
    List.filter_cons_of_pos (by decide)] at hkept
  cases hkept

/-- Of a text that is cut at a comma in two ways, the part before the one is that before the other
trimmed only if they are cut at the same comma. -/
theorem eq_of_trim_eq {text behind before after : List Char}
    (hparts : text ++ ',' :: behind = before ++ ',' :: after)
    (htrim : Text.trim before = text) : before = text := by
  -- at an earlier comma too few characters would be left, and at a later one a comma too many
  obtain ⟨more, hmore⟩ : text <+: before := by
    refine List.prefix_of_prefix_length_le (List.prefix_append text (',' :: behind))
      ⟨',' :: after, hparts.symm⟩ ?_
    rw [← htrim]
    exact Text.length_trim_le before
  cases more with
  | nil => rw [← hmore, List.append_nil]
  | cons c more =>
    rw [← hmore, List.append_assoc, List.append_cancel_left_eq, List.cons_append] at hparts
    obtain ⟨rfl, -⟩ := List.cons.inj hparts
    rw [← hmore] at htrim
    exact absurd htrim (trim_append_comma_ne _ _)

/-- **The first argument of a joined list is found again exactly if it is closed and whole.** -/
theorem split_append_eq_cons_iff (h : Recorded argument) :
    split (argument ++ ", " ++ rest) = argument :: others ↔
      (Closed false argument.toList ∧ Whole argument.toList) ∧ split rest = others := by
  have htext : (argument ++ ", " ++ rest).toList =
    argument.toList ++ ',' :: ' ' :: rest.toList := by simp
  have htrim : Text.trim argument.toList = argument.toList := by rw [← toList_trimmed, h.trimmed]
  have hfound : Closed false argument.toList → Whole argument.toList →
      split (argument ++ ", " ++ rest) = argument :: split rest := by
    intro hclosed hwhole
    rw [split_of_first_end htext (after_eq_start_iff.2 hclosed) (meetsEnd_eq_false_iff.2 hwhole),
      scan_blank_cons, htrim, String.ofList_toList, split]
  constructor
  · intro hsplit
    suffices hargument : Closed false argument.toList ∧ Whole argument.toList by
      rw [hfound hargument.1 hargument.2] at hsplit
      exact ⟨hargument, (List.cons.inj hsplit).2⟩
    cases hends : Point.meetsEnd {} (argument ++ ", " ++ rest).toList with
    | true =>
      obtain ⟨before, behind, hparts, hpoint, hbefore⟩ := Point.exists_first_end hends
      rw [split_of_first_end hparts hpoint hbefore] at hsplit
      have hfirst : Text.trim before = argument.toList := by
        rw [← (List.cons.inj hsplit).1, String.toList_ofList]
      rw [htext] at hparts
      obtain rfl := eq_of_trim_eq hparts hfirst
      exact ⟨after_eq_start_iff.1 hpoint, meetsEnd_eq_false_iff.1 hbefore⟩
    | false =>
      have hscan := scan_eq_closeLast {} hends []
      have hne : Text.trim (argument ++ ", " ++ rest).toList ≠ argument.toList :=
        htext ▸ trim_append_comma_ne _ _
      rw [List.append_nil] at hscan
      rw [split, hscan, closeLast, List.reverse_reverse] at hsplit
      split at hsplit
      · cases hsplit
      · exact absurd ((String.toList_ofList).symm.trans
          (congrArg String.toList (List.cons.inj hsplit).1)) hne
  · rintro ⟨⟨hclosed, hwhole⟩, rfl⟩
    exact hfound hclosed hwhole

/-- **Arguments that are joined are found again exactly if every one is whole and every one but the
last is closed.** -/
theorem split_intercalate_eq_self_iff (h : ∀ argument ∈ arguments, Recorded argument) :
    split (", ".intercalate arguments) = arguments ↔
      (∀ argument ∈ arguments, Whole argument.toList) ∧ ∀ argument ∈ arguments.dropLast,
        Closed false argument.toList := by
  induction arguments with
  | nil => exact iff_of_true (by decide) (by simp)
  | cons first others ih =>
    obtain ⟨hfirst, hothers⟩ := List.forall_mem_cons.1 h
    cases others with
    | nil => simpa [String.intercalate_singleton] using split_eq_self_iff hfirst
    | cons second others =>
      have hne : second :: others ≠ [] := List.cons_ne_nil _ _
      rw [String.intercalate_cons_of_ne_nil hne, split_append_eq_cons_iff hfirst, ih hothers,
        List.dropLast_cons_of_ne_nil hne, List.forall_mem_cons (a := first),
        List.forall_mem_cons (a := first)]
      tauto

/-! ### Joining what was taken apart -/

/-- A scan loses blanks and at most one comma at the end, and that only behind an argument. -/
theorem withoutBlanks_scan (point : Point) (read text : List Char) :
    ∃ lost : List Char, (lost = [] ∨ lost = [','] ∧ scan read point.depth point.quoting text ≠ []) ∧
      Text.withoutBlanks (read.reverse ++ text) =
        Text.withoutBlanks ([','].intercalate (scan read point.depth point.quoting text)) ++
          lost := by
  induction text generalizing point read with
  | nil =>
    refine ⟨[], Or.inl rfl, ?_⟩
    rw [List.append_nil, List.append_nil, scan, closeLast, ← Text.withoutBlanks_trim read.reverse]
    split
    · rename_i hblank
      rw [hblank, List.intercalate_nil]
    · rw [List.intercalate_singleton]
  | cons c text ih =>
    rw [scan_cons]
    split_ifs with hend
    · obtain ⟨rfl, -⟩ := hend
      obtain ⟨lost, hlost, hrest⟩ := ih {} []
      have hcomma : Text.withoutBlanks (',' :: text) = ',' :: Text.withoutBlanks text :=
        List.filter_cons_of_pos (by decide)
      rw [List.reverse_nil, List.nil_append] at hrest
      rw [Text.withoutBlanks_append, hcomma, hrest]
      cases hscan : scan [] 0 .outside text with
      | nil =>
        -- nothing but blanks is behind the comma, so the comma is lost
        refine ⟨[','], Or.inr ⟨rfl, List.cons_ne_nil _ _⟩, ?_⟩
        obtain rfl : lost = [] := hlost.resolve_right fun h => h.2 hscan
        rw [List.intercalate_singleton, Text.withoutBlanks_trim, List.intercalate_nil]
        rfl
      | cons second others =>
        refine ⟨lost, hlost.imp_right fun h => ⟨h.1, List.cons_ne_nil _ _⟩, ?_⟩
        rw [List.intercalate_cons_cons, Text.withoutBlanks_append, Text.withoutBlanks_append,
          Text.withoutBlanks_trim, List.append_assoc, List.append_assoc]
        rfl
    · obtain ⟨lost, hlost, hrest⟩ := ih (point.next c) (c :: read)
      refine ⟨lost, hlost, ?_⟩
      rw [← hrest, List.reverse_cons, List.append_assoc, List.singleton_append]

theorem withoutBlanks_split (text : String) :
    Text.withoutBlanks text.toList = Text.withoutBlanks (",".intercalate (split text)).toList ∨
      Text.withoutBlanks text.toList =
        Text.withoutBlanks (",".intercalate (split text)).toList ++ [','] := by
  obtain ⟨lost, hlost, htext⟩ := withoutBlanks_scan {} [] text.toList
  have hpieces : (",".intercalate (split text)).toList =
      [','].intercalate (scan [] 0 .outside text.toList) := by
    rw [String.toList_intercalate, split, List.map_map]
    simp [Function.comp_def]
  rw [List.reverse_nil, List.nil_append] at htext
  rw [hpieces, htext]
  rcases hlost with rfl | ⟨rfl, -⟩
  · exact Or.inl (List.append_nil _)
  · exact Or.inr rfl

/-! ### Joining and taking apart -/

/-- An argument that can stand anywhere in a list: it is recorded, a scan of it is back at its start
behind it, and meets no end of an argument on the way. -/
structure Separable (argument : String) : Prop extends Recorded argument where
  after_eq : Point.after {} argument.toList = {}
  meetsEnd_eq : Point.meetsEnd {} argument.toList = false

theorem separable_iff : Separable argument ↔
    Recorded argument ∧ Closed false argument.toList ∧ Whole argument.toList :=
  ⟨fun h => ⟨h.toRecorded, after_eq_start_iff.1 h.after_eq, meetsEnd_eq_false_iff.1 h.meetsEnd_eq⟩,
    fun h => ⟨h.1, after_eq_start_iff.2 h.2.1, meetsEnd_eq_false_iff.2 h.2.2⟩⟩

instance (argument : String) : Decidable (Separable argument) :=
  decidable_of_iff (Recorded argument ∧ Point.after {} argument.toList = {} ∧
    Point.meetsEnd {} argument.toList = false)
    ⟨fun h => ⟨h.1, h.2.1, h.2.2⟩, fun h => ⟨h.toRecorded, h.after_eq, h.meetsEnd_eq⟩⟩

/-- **Taking apart and joining undo each other.** Separable arguments with commas between them are
taken apart into themselves. The arguments that any text is taken apart into, with commas between
them, are the text up to blanks and one comma at its end. -/
theorem split_joined :
    (∀ arguments : List String, (∀ argument ∈ arguments, Separable argument) →
      split (", ".intercalate arguments) = arguments) ∧
    ∀ text : String,
      Text.withoutBlanks text.toList = Text.withoutBlanks (",".intercalate (split text)).toList ∨
        Text.withoutBlanks text.toList =
          Text.withoutBlanks (",".intercalate (split text)).toList ++ [','] := by
  refine ⟨fun arguments h => ?_, withoutBlanks_split⟩
  have hparts : ∀ argument ∈ arguments, Recorded argument ∧ Closed false argument.toList ∧
      Whole argument.toList :=
    fun argument hargument => separable_iff.1 (h argument hargument)
  refine (split_intercalate_eq_self_iff fun argument hargument =>
    (hparts argument hargument).1).2 ⟨?_, ?_⟩
  · exact fun argument hargument => (hparts argument hargument).2.2
  · exact fun argument hargument => (hparts argument (List.dropLast_subset _ hargument)).2.1

/-- Arguments with nested brackets, with an escaped quote behind a comma, and with a closing bracket
on its own. -/
theorem split_joined_nested :
    (∀ argument ∈ ["f(a, [b, c])", "\"x, \\\"y\"", "')'", "z)]"], Separable argument) ∧
      split "f(a, [b, c]), \"x, \\\"y\", ')', z)]" = ["f(a, [b, c])", "\"x, \\\"y\"", "')'",
        "z)]"] := by
  have hseparable : ∀ argument ∈ ["f(a, [b, c])", "\"x, \\\"y\"", "')'", "z)]"],
    Separable argument := by decide
  exact ⟨hseparable, split_joined.1 _ hseparable⟩

/-- A blank argument at the end is lost with the comma before it. -/
example : split "a, ,, " = ["a", "", ""] := by decide

end BranchCover.ArgumentList
