import BranchCover.Project.Path
import BranchCover.Proofs.Text.Lines
import BranchCover.Proofs.Text.Scan

/-!
# Names of paths

The names of a path that was read from a text have no slash in them, and taking one path below
another keeps them. The ending of a path is that of its last name.

* `Path.SlashFree`: no name of a path has a slash.
* `Path.exists_concat_ofString`: the last name of a text that ends in a word ends in the word.
* `Path.suffix_of_last`: the ending of a path.
-/

namespace BranchCover

namespace Text

/-- The last piece of a text that ends in a word without a character of the class ends in the
word. -/
theorem exists_concat_splitFrom {p : Char → Bool} {word : List Char} (h : ∀ c ∈ word, p c = false)
    (piece text : List Char) : ∃ pieces front,
      splitFrom p piece (text ++ word) = pieces ++ [front ++ word] := by
  induction text generalizing piece with
  | nil =>
    refine ⟨[], piece.reverse, ?_⟩
    induction word generalizing piece with
    | nil => simp [splitFrom]
    | cons c word ih =>
      obtain ⟨hc, hword⟩ := List.forall_mem_cons.1 h
      rw [List.nil_append, splitFrom, if_neg (by simp [hc])]
      simpa using ih hword (c :: piece)
  | cons c text ih =>
    rw [List.cons_append, splitFrom]
    split_ifs
    · obtain ⟨pieces, front, heq⟩ := ih []
      exact ⟨piece.reverse :: pieces, front, by rw [heq, List.cons_append]⟩
    · exact ih (c :: piece)

end Text

namespace Path

variable {path below : Path} {text : String}

/-- No name of a path has a slash. -/
def SlashFree (path : Path) : Prop := ∀ name ∈ path.names, '/' ∉ name.toList

theorem slashFree_ofString (text : String) : (ofString text).SlashFree := by
  intro name hname
  obtain ⟨piece, hpiece, rfl⟩ := List.mem_map.1 (List.mem_filter.1 hname).1
  rw [String.toList_ofList]
  exact Text.notMem_of_mem_splitFrom rfl (by simp) hpiece

theorem SlashFree.join (hpath : path.SlashFree) (hbelow : below.SlashFree) :
    (path.join below).SlashFree := by
  rw [Path.join]
  split_ifs
  · exact hbelow
  · exact fun name hname => (List.mem_append.1 hname).elim (hpath name) (hbelow name)

theorem join_join (path middle below : Path) :
    (path.join middle).join below = path.join (middle.join below) := by
  simp only [join, isAbsolute, bne_iff_ne]
  split_ifs <;> simp_all

/-- The last name of a path below another is its own. -/
theorem exists_concat_join {name : String} (h : ∃ names, below.names = names ++ [name]) :
    ∃ names, (path.join below).names = names ++ [name] := by
  obtain ⟨names, hnames⟩ := h
  rw [join]
  split_ifs
  · exact ⟨names, hnames⟩
  · exact ⟨path.names ++ names, by simp [hnames]⟩

/-- The last name of a text that ends in a word ends in the word. -/
theorem exists_concat_ofString {word : List Char} (hslash : '/' ∉ word) (hword : 1 < word.length)
    (htext : word <:+ text.toList) : ∃ names name, (ofString text).names = names ++ [name] ∧
      word <:+ name.toList := by
  obtain ⟨front, hfront⟩ := htext
  obtain ⟨pieces, piece, hpieces⟩ :=
    Text.exists_concat_splitFrom (Text.beq_eq_false_of_notMem hslash) [] front
  have hlong : ∀ short : String, short.length ≤ 1 → String.ofList (piece ++ word) ≠ short := by
    rintro _ hshort rfl
    simp at hshort
    omega
  refine ⟨(pieces.map String.ofList).filter fun name => name != "" && name != ".",
    String.ofList (piece ++ word), ?_, by simp⟩
  have hkept : (String.ofList (piece ++ word) != "" && String.ofList (piece ++ word) != ".") =
      true := by
    simp [-String.ofList_append, hlong "" (by decide), hlong "." (by decide)]
  show ((Text.splitFrom (· == '/') [] text.toList).map String.ofList).filter _ = _
  rw [← hfront, hpieces, List.map_append, List.filter_append, List.map_singleton,
    List.filter_singleton, hkept]
  rfl

theorem suffixOf_append {before after : List Char} (hbefore : before ≠ []) (hafter : after ≠ [])
    (h : '.' ∉ after) :
    suffixOf (before ++ '.' :: after) = '.' :: after := by
  rw [suffixOf, Text.splitLast?_append h]
  simp [hbefore, hafter]

end Path

end BranchCover
