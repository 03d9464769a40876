import BranchCover.Proofs.TypeText.Arrow
import BranchCover.Proofs.TypeText.Expression

/-!
# The arguments of a generic type

The arguments of a generic type stand between its first opening bracket and its last closing one.
They are told apart by the commas at which no bracket is open, and each loses its projection.

* `GenericType`: the types that are names with projected arguments and question marks.
* `Reads`: the texts that a scan for the end of an argument reads without finding it.
* `splitArguments_listed`: arguments that are read are told apart.
* `withoutProjection_chars`: a projection is taken off an argument, and nothing else is.
* `arguments_applied`: the arguments and the name of a generic type.
-/

namespace BranchCover

/-- How the type of an argument is projected. -/
inductive Projection where
  | invariant
  | consumer
  | producer

/-- A projection as it is written in front of a type. -/
def Projection.chars : Projection → List Char
  | .invariant => []
  | .consumer => "in ".toList
  | .producer => "out ".toList

/-- A name with projected types as arguments, and question marks. -/
inductive GenericType where
  | applied (name : DottedName) (arguments : List (Projection × GenericType)) (marks : ℕ)

namespace GenericType

/-- What holds of every type if it holds of one whose arguments it holds of. -/
@[elab_as_elim]
theorem arguments_induction {motive : GenericType → Prop}
    (applied : ∀ name arguments marks, (∀ argument ∈ arguments, motive argument.2) →
      motive (.applied name arguments marks))
    (type : GenericType) : motive type := by
  match type with
  | .applied name arguments marks =>
    refine applied name arguments marks fun argument hargument => ?_
    have hsize : sizeOf argument < sizeOf arguments := List.sizeOf_lt_of_mem hargument
    have hpair : sizeOf argument.2 < sizeOf argument := by
      rw [Prod.mk.sizeOf_spec]
      omega
    exact arguments_induction applied argument.2
termination_by sizeOf type
decreasing_by
  simp only [GenericType.applied.sizeOf_spec]
  omega

mutual

/-- A type as it is written. -/
def chars : GenericType → List Char
  | .applied name arguments marks =>
    TypeExpr.applied name (charsOf arguments) ++ List.replicate marks '?'

/-- Arguments as they are written. -/
def charsOf : List (Projection × GenericType) → List (List Char)
  | [] => []
  | (projection, type) :: rest => (projection.chars ++ type.chars) :: charsOf rest

end

/-- A type as it is written. -/
def text (type : GenericType) : String := String.ofList type.chars

@[simp] theorem toList_text (type : GenericType) : type.text.toList = type.chars :=
  String.toList_ofList

/-- An argument as it is written. -/
def argumentChars (argument : Projection × GenericType) : List Char :=
  argument.1.chars ++ argument.2.chars

theorem charsOf_eq_map (arguments : List (Projection × GenericType)) :
    charsOf arguments = arguments.map argumentChars := by
  induction arguments with
  | nil => rfl
  | cons argument rest ih => rw [charsOf, ih, List.map_cons, argumentChars]

theorem chars_applied (name : DottedName) (arguments : List (Projection × GenericType))
    (marks : ℕ) :
    (applied name arguments marks).chars =
      TypeExpr.applied name (arguments.map argumentChars) ++ List.replicate marks '?' := by
  rw [chars, charsOf_eq_map]

end GenericType

namespace TypeText

open TypeExpr (listed)

variable {text front back read rest : List Char} {depth start finish : Int}

/-! ### Scans for the end of an argument -/

/-- A text that a scan for the end of an argument reads without finding it, from one depth of
brackets to another. -/
def Reads (start finish : Int) (text : List Char) : Prop :=
  ∀ read rest, splitArguments read start (text ++ rest) =
    splitArguments (text.reverse ++ read) finish rest

theorem reads_nil (depth : Int) : Reads depth depth [] := fun _ _ => rfl

theorem Reads.append {middle : Int} (h : Reads start middle front)
    (hback : Reads middle finish back) :
    Reads start finish (front ++ back) := by
  intro read rest
  rw [List.append_assoc, h, hback, List.reverse_append, List.append_assoc]

theorem reads_opening (depth : Int) : Reads depth (depth + 1) ['<'] := by
  intro read rest
  simp [splitArguments]

theorem reads_closing (depth : Int) : Reads depth (depth - 1) ['>'] := by
  intro read rest
  simp [splitArguments]

/-- A comma is read where a bracket is open. -/
theorem reads_comma (h : depth ≠ 0) : Reads depth depth [','] := by
  intro read rest
  simp [splitArguments, h]

theorem reads_of_plain (h : ∀ c ∈ text, c ∉ ['<', '>', ',']) (depth : Int) :
    Reads depth depth text := by
  induction text with
  | nil => exact reads_nil depth
  | cons c text ih =>
    obtain ⟨hc, htext⟩ := List.forall_mem_cons.1 h
    simp only [List.mem_cons, List.not_mem_nil, or_false, not_or] at hc
    have hfirst : Reads depth depth [c] := by
      intro read rest
      simp [splitArguments, hc]
    exact hfirst.append (ih htext)

theorem Reads.bracketed (h : Reads (depth + 1) (depth + 1) text) :
    Reads depth depth ('<' :: (text ++ ['>'])) := by
  have hclosed := h.append (reads_closing (depth + 1))
  rw [Int.add_sub_cancel] at hclosed
  exact (reads_opening depth).append hclosed

theorem reads_listed {texts : List (List Char)} (hdepth : depth ≠ 0)
    (h : ∀ text ∈ texts, Reads depth depth text) :
    Reads depth depth (listed texts) := by
  induction texts with
  | nil => exact reads_nil depth
  | cons first texts ih =>
    obtain ⟨hfirst, htexts⟩ := List.forall_mem_cons.1 h
    cases texts with
    | nil => simpa using hfirst
    | cons second texts =>
      have hblank : Reads depth depth [' '] := reads_of_plain (by simp) depth
      rw [TypeExpr.listed_cons_cons]
      exact (hfirst.append ((reads_comma hdepth).append hblank)).append (ih htexts)

theorem reads_name (name : DottedName) (depth : Int) : Reads depth depth name.chars := by
  refine reads_of_plain (fun c hc hmem => ?_) depth
  simp only [List.mem_cons, List.not_mem_nil, or_false] at hmem
  rcases hmem with rfl | rfl | rfl <;> exact DottedName.notMem_chars (by decide) (by decide) hc

theorem reads_projection (projection : Projection) (depth : Int) :
    Reads depth depth projection.chars := by
  cases projection <;> exact reads_of_plain (by simp [Projection.chars]) depth

/-- **A scan reads a type.** The commas in it stand in brackets, so that no argument ends there. -/
theorem reads_chars (type : GenericType) (h : 0 ≤ depth) : Reads depth depth type.chars := by
  induction type using GenericType.arguments_induction generalizing depth with
  | applied name arguments marks ih =>
    have hinside : Reads (depth + 1) (depth + 1)
        (listed (arguments.map GenericType.argumentChars)) := by
      refine reads_listed (by omega) (List.forall_mem_map.2 fun argument hargument => ?_)
      exact (reads_projection argument.1 _).append (ih argument hargument (by omega))
    have hmarks : Reads depth depth (List.replicate marks '?') :=
      reads_of_plain (fun c hc => by rw [List.eq_of_mem_replicate hc]; decide) depth
    rw [GenericType.chars_applied]
    refine Reads.append ?_ hmarks
    by_cases hnone : arguments = []
    · subst hnone
      simpa [TypeExpr.applied] using reads_name name depth
    · rw [TypeExpr.applied_of_ne_nil name (by simpa using hnone)]
      exact (reads_name name depth).append hinside.bracketed

/-- **Texts that are read are told apart by the commas between them.** -/
theorem splitArguments_listed {texts : List (List Char)}
    (h : ∀ text ∈ texts, Reads 0 0 text ∧ text ≠ [] ∧ Text.trim text = text) :
      splitArguments [] 0 (listed texts) = texts := by
  -- behind a comma, the blank is the first character of the next piece
  have hgap : ∀ gap : List Char, (∀ c ∈ gap, Text.isBlank c = true) →
      splitArguments gap 0 (listed texts) = texts := by
    induction texts with
    | nil =>
      intro gap hgap
      have hblank : Text.trim gap.reverse = [] :=
        Text.trim_eq_nil_iff.2 fun c hc => hgap c (List.mem_reverse.1 hc)
      rw [listed, List.intercalate_nil, splitArguments, hblank]
    | cons first texts ih =>
      intro gap hgap
      obtain ⟨⟨hreads, hne, htrim⟩, htexts⟩ := List.forall_mem_cons.1 h
      have hpiece : Text.trim (first.reverse ++ gap).reverse = first := by
        rw [List.reverse_append, List.reverse_reverse,
          Text.trim_blank_append (fun c hc => hgap c (List.mem_reverse.1 hc)), htrim]
      cases texts with
      | nil =>
        obtain ⟨c, tail, rfl⟩ := List.exists_cons_of_ne_nil hne
        have hread := hreads gap []
        rw [List.append_nil] at hread
        rw [TypeExpr.listed_singleton, hread, splitArguments, hpiece]
      | cons second texts =>
        rw [TypeExpr.listed_cons_cons, List.append_assoc, hreads]
        have hcomma : splitArguments (first.reverse ++ gap) 0
          ([',', ' '] ++ listed (second :: texts)) =
            Text.trim (first.reverse ++ gap).reverse ::
              splitArguments [' '] 0 (listed (second :: texts)) := by
          simp [splitArguments]
        rw [hcomma, hpiece, ih htexts [' '] (List.all_eq_true.1 rfl)]
  exact hgap [] (by simp)

/-! ### Arguments and their projections -/

theorem head?_chars (type : GenericType) :
    ∃ c, type.chars.head? = some c ∧ Text.isBlank c = false := by
  obtain ⟨name, arguments, marks⟩ := type
  obtain ⟨c, hhead, hblank, -⟩ := TypeExpr.head?_applied name
    (arguments.map GenericType.argumentChars)
  exact ⟨c, by rw [GenericType.chars_applied, List.head?_append, hhead, Option.some_or], hblank⟩

theorem getLast?_chars (type : GenericType) :
    ∃ c, type.chars.getLast? = some c ∧ Text.isBlank c = false := by
  obtain ⟨name, arguments, marks⟩ := type
  rw [GenericType.chars_applied]
  exact TypeExpr.getLast?_applied_marks name _ marks

theorem trim_chars (type : GenericType) : Text.trim type.chars = type.chars := by
  obtain ⟨first, hfirst, hblank⟩ := head?_chars type
  obtain ⟨last, hlast, hblank'⟩ := getLast?_chars type
  exact Text.trim_of_ends hfirst hlast hblank hblank'

theorem trim_argumentChars (argument : Projection × GenericType) :
    Text.trim (GenericType.argumentChars argument) = GenericType.argumentChars argument := by
  obtain ⟨projection, type⟩ := argument
  obtain ⟨first, hfirst, hblank⟩ := head?_chars type
  obtain ⟨last, hlast, hblank'⟩ := getLast?_chars type
  have hend : (GenericType.argumentChars (projection, type)).getLast? = some last := by
    rw [GenericType.argumentChars, List.getLast?_append, hlast, Option.some_or]
  cases projection with
  | invariant => exact Text.trim_of_ends hfirst hend hblank hblank'
  | consumer =>
    have hstart : (GenericType.argumentChars (.consumer, type)).head? = some 'i' := rfl
    exact Text.trim_of_ends hstart hend (by decide) hblank'
  | producer =>
    have hstart : (GenericType.argumentChars (.producer, type)).head? = some 'o' := rfl
    exact Text.trim_of_ends hstart hend (by decide) hblank'

theorem argumentChars_ne_nil (argument : Projection × GenericType) :
    GenericType.argumentChars argument ≠ [] := by
  obtain ⟨c, hhead, -⟩ := head?_chars argument.2
  refine List.append_ne_nil_of_right_ne_nil _ ?_
  intro hnil
  rw [hnil] at hhead
  cases hhead

/-- No type starts with a word and a blank, for the name of a type is followed by a bracket, a
question mark or nothing. -/
theorem not_isPrefix_chars (word : List Char) (hword : ∀ c ∈ word, Text.isWord c = true)
    (type : GenericType) :
    ¬word ++ [' '] <+: type.chars := by
  obtain ⟨name, arguments, marks⟩ := type
  rintro ⟨behind, hbehind⟩
  rw [GenericType.chars_applied, TypeExpr.applied, List.append_assoc, List.append_assoc,
    List.singleton_append] at hbehind
  have hnext := congrArg (List.dropWhile fun c => Text.isWord c || c == '.') hbehind
  rw [Text.dropWhile_append_eq (fun c hc => by simp [hword c hc]) (fun c hc => by cases hc; decide)]
    at hnext
  rw [Text.dropWhile_append_eq (fun c hc => by simpa using DottedName.isWord_or_dot_of_mem hc)]
    at hnext
  · have hhead := congrArg List.head? hnext
    by_cases hnone : arguments = []
    · subst hnone
      cases marks <;> cases hhead
    · simp [hnone] at hhead
  · intro c hc
    by_cases hnone : arguments = []
    · subst hnone
      cases marks with
      | zero => cases hc
      | succ marks =>
        cases hc
        decide
    · simp [hnone] at hc
      subst hc
      decide

theorem withoutHead_append (head text : List Char) : withoutHead head (head ++ text) = text := by
  rw [withoutHead, Text.dropHead?_eq_some_iff.2 rfl, Option.getD_some]

theorem withoutHead_of_not_isPrefix {head : List Char} (h : ¬head <+: text) :
    withoutHead head text = text := by
  rw [withoutHead]
  cases hdrop : Text.dropHead? head text with
  | none => rfl
  | some rest => exact absurd ⟨rest, (Text.dropHead?_eq_some_iff.1 hdrop).symm⟩ h

/-- **The projection is taken off an argument, and nothing else is.** -/
theorem withoutProjection_argumentChars (argument : Projection × GenericType) :
    withoutProjection (GenericType.argumentChars argument) = argument.2.chars := by
  obtain ⟨projection, type⟩ := argument
  have hin : withoutHead "in ".toList type.chars = type.chars :=
    withoutHead_of_not_isPrefix (not_isPrefix_chars ['i', 'n'] (List.all_eq_true.1 rfl) type)
  have hout : withoutHead "out ".toList type.chars = type.chars :=
    withoutHead_of_not_isPrefix (not_isPrefix_chars ['o', 'u', 't'] (List.all_eq_true.1 rfl) type)
  rw [withoutProjection, GenericType.argumentChars]
  cases projection with
  | invariant => rw [Projection.chars, List.nil_append, hout, hin, trim_chars]
  | consumer =>
    have hother : withoutHead "out ".toList ("in ".toList ++ type.chars) =
      "in ".toList ++ type.chars := rfl
    rw [Projection.chars, hother, withoutHead_append, trim_chars]
  | producer => rw [Projection.chars, withoutHead_append, hin, trim_chars]

/-! ### Lengths -/

theorem length_base_le (type : String) : (base type).length ≤ type.length := by
  have hmarks := length_withoutMarks_le type
  have htrim := Text.length_trim_le (withoutMarks type)
  have hname := (List.takeWhile_prefix (· != '<') (l := Text.trim (withoutMarks type))).length_le
  have hlast := Text.length_afterLast_le '.' ((Text.trim (withoutMarks type)).takeWhile (· != '<'))
  have hsegment := Text.length_trim_le
    (Text.afterLast '.' ((Text.trim (withoutMarks type)).takeWhile (· != '<')))
  rw [base, String.length_ofList]
  omega

/-- The text in the brackets is shorter than the type, unless there are none. -/
theorem length_argumentText (type : String) :
    argumentText type = [] ∨ (argumentText type).length < type.length := by
  have hmarks := length_withoutMarks_le type
  rw [argumentText]
  split
  · exact Or.inl rfl
  · rename_i before rest hfirst
    split
    · exact Or.inl rfl
    · rename_i inner after hlast
      have hwhole := congrArg List.length (Text.splitFirst?_eq_some hfirst)
      have hrest := congrArg List.length (Text.splitLast?_eq_some hlast)
      rw [List.length_append, List.length_cons] at hwhole hrest
      exact Or.inr (by omega)

theorem length_splitArguments {piece : List Char} (h : piece ∈ splitArguments read depth text) :
    piece.length ≤ read.length + text.length := by
  have htrim : ∀ read : List Char, (Text.trim read.reverse).length ≤ read.length := fun read =>
    (Text.length_trim_le _).trans_eq List.length_reverse
  induction text generalizing read depth with
  | nil =>
    rw [splitArguments] at h
    split at h
    · cases h
    · rw [List.mem_singleton] at h
      subst h
      exact htrim read
  | cons c rest ih =>
    -- the depth behind the first character
    obtain ⟨next, hstep⟩ : ∃ next, splitArguments read depth (c :: rest) =
        if c = ',' ∧ next = 0 then Text.trim read.reverse :: splitArguments [] next rest
        else splitArguments (c :: read) next rest := ⟨_, rfl⟩
    rw [hstep] at h
    rw [List.length_cons]
    split_ifs at h
    · rcases List.mem_cons.1 h with rfl | hlater
      · exact (htrim read).trans (Nat.le_add_right _ _)
      · have := ih hlater
        rw [List.length_nil] at this
        omega
    · have := ih h
      rw [List.length_cons] at this
      omega

theorem length_withoutHead_le (head text : List Char) :
    (withoutHead head text).length ≤ text.length := by
  rw [withoutHead]
  cases hdrop : Text.dropHead? head text with
  | none => rfl
  | some rest =>
    rw [Option.getD_some, Text.dropHead?_eq_some_iff.1 hdrop, List.length_append]
    exact Nat.le_add_left _ _

theorem length_withoutProjection_le (argument : List Char) :
    (withoutProjection argument).length ≤ argument.length :=
  (Text.length_trim_le _).trans ((length_withoutHead_le _ _).trans (length_withoutHead_le _ _))

/-- **An argument is shorter than its type.** -/
theorem length_lt_of_mem_arguments {type argument : String}
    (h : argument ∈ TypeText.arguments type) :
    argument.length < type.length := by
  obtain ⟨piece, hpiece, rfl⟩ := List.mem_map.1 h
  have hshort : piece.length ≤ (argumentText type).length := by
    have := length_splitArguments hpiece
    rwa [List.length_nil, Nat.zero_add] at this
  have hprojection := length_withoutProjection_le piece
  rw [Function.comp_apply, String.length_ofList]
  rcases length_argumentText type with hnone | hinside
  · rw [hnone] at hpiece
    cases hpiece
  · omega

/-! ### Generic types -/

theorem argumentText_applied (name : DottedName) (arguments : List (Projection × GenericType))
    (marks : ℕ) :
    argumentText (GenericType.applied name arguments marks).text =
      listed (arguments.map GenericType.argumentChars) := by
  have hname : '<' ∉ name.chars := DottedName.notMem_chars (by decide) (by decide)
  rw [argumentText, GenericType.text, GenericType.chars_applied, TypeExpr.withoutMarks_applied]
  by_cases hnone : arguments = []
  · subst hnone
    rw [TypeExpr.applied, List.map_nil, List.isEmpty_nil, if_pos rfl, List.append_nil,
      Text.splitFirst?_of_not_mem hname]
    rfl
  · rw [TypeExpr.applied_of_ne_nil name (by simpa using hnone), Text.splitFirst?_append hname]
    dsimp only
    rw [Text.splitLast?_append List.not_mem_nil]

/-- **A generic type is taken apart into its arguments.** Whatever stands in the arguments of a
type, at any depth, its arguments are those that it is written with, in their order and without
their projections, and its name is the last segment of the dotted name. -/
theorem arguments_applied (name : DottedName) (arguments : List (Projection × GenericType))
    (marks : ℕ) :
    TypeText.arguments (GenericType.applied name arguments marks).text = arguments.map (·.2.text) ∧
      TypeText.base (GenericType.applied name arguments marks).text = String.ofList name.last := by
  have hread : ∀ text ∈ arguments.map GenericType.argumentChars, Reads 0 0 text ∧ text ≠ [] ∧
      Text.trim text = text := by
    refine List.forall_mem_map.2 fun argument _ =>
      ⟨?_, argumentChars_ne_nil argument, trim_argumentChars argument⟩
    exact (reads_projection argument.1 0).append (reads_chars argument.2 (Int.le_refl 0))
  constructor
  · rw [TypeText.arguments, argumentText_applied, splitArguments_listed hread, List.map_map]
    refine List.map_congr_left fun argument _ => ?_
    rw [Function.comp_apply, Function.comp_apply, withoutProjection_argumentChars, GenericType.text]
  · rw [GenericType.text, GenericType.chars_applied, TypeExpr.base_applied]

/-- Commas and projections in the arguments of an argument stay. -/
example : TypeText.arguments "kotlin.Map<in List<Int, out T?>?, out out<A>>?" =
    ["List<Int, out T?>?", "out<A>"] := by
  decide

end TypeText

end BranchCover
