import BranchCover.Proofs.Random.Choice
import BranchCover.Proofs.TypeText.Generic
import BranchCover.Proofs.Value.Nesting
import BranchCover.Value.Pool

/-!
# Boundary values end and stay shallow

A boundary value of a type is put together from values of the parts of the type: of the type without
its question mark at the same depth, and of arguments and of the elements of arrays one level
deeper. Every part is shorter than the type, so that the recursion ends on any text. From the
greatest depth on there are no elements, so that only the depths in front of it count.

* `levels`: how deep the parentheses of a value may nest at a depth of collections.
* `always_poolStep`: a step keeps the bound on the levels.
* `poolStep_congr`: a step looks at shorter types only.
* `iterate_poolStep`: more steps than a type has characters make no difference.
* `pool_nests`: boundary values end and stay shallow.
-/

namespace BranchCover.Value

open Condition (IsFlat isFlat_append isFlat_cons)
open Twister (Always)

/-! ### Numbers and letters -/

theorem isFlat_of_isDigit {text : List Char} (h : ∀ c ∈ text, c.isDigit = true) : IsFlat text :=
  ⟨fun hc => absurd (h _ hc) (by decide), fun hc => absurd (h _ hc) (by decide)⟩

theorem isFlat_toDigits (n : ℕ) : IsFlat (Nat.toDigits 10 n) :=
  isFlat_of_isDigit fun _ hc => Nat.isDigit_of_mem_toDigits (by omega) le_rfl hc

theorem isFlat_intText (n : Int) : IsFlat (Number.intText n).toList := by
  rw [Number.intText, String.toList_ofList]
  split_ifs
  · exact isFlat_cons.2 ⟨by decide, isFlat_toDigits _⟩
  · exact isFlat_toDigits _

theorem isFlat_zeros (n : ℕ) : IsFlat (Binary64.zeros n) :=
  isFlat_of_isDigit fun c hc => by
    rw [List.eq_of_mem_replicate hc]
    decide

theorem isFlat_layout {digits : List Char} (h : IsFlat digits) (leading : Int) :
    IsFlat (Binary64.layout digits leading) := by
  unfold Binary64.layout
  extract_lets mantissa size whole padded places
  have hmantissa : IsFlat mantissa := by
    rcases digits with - | ⟨d, - | ⟨e, rest⟩⟩
    · exact h
    · exact h
    · exact isFlat_cons.2 ⟨(isFlat_cons.1 h).1, isFlat_cons.2 ⟨by decide, (isFlat_cons.1 h).2⟩⟩
  have hsize : IsFlat (Binary64.zeros (2 - size.length) ++ size) :=
    isFlat_append.2 ⟨isFlat_zeros _, isFlat_toDigits _⟩
  have hpadded : IsFlat padded := isFlat_append.2 ⟨h, isFlat_zeros _⟩
  have hplaces : IsFlat (if places.isEmpty then ['0'] else places) := by
    split_ifs
    · exact isFlat_zeros 1
    · exact hpadded.of_subset (List.drop_subset _ _)
  split
  · have hsign : (if leading < 0 then '-' else '+') ≠ '(' ∧
        (if leading < 0 then '-' else '+') ≠ ')' := by
      split_ifs <;> decide
    exact isFlat_append.2 ⟨hmantissa, isFlat_cons.2 ⟨by decide, isFlat_cons.2 ⟨hsign, hsize⟩⟩⟩
  · split
    · exact isFlat_cons.2 ⟨by decide,
        isFlat_cons.2 ⟨by decide, isFlat_append.2 ⟨isFlat_zeros _, h⟩⟩⟩
    · exact isFlat_append.2 ⟨hpadded.of_subset (List.take_subset _ _),
        isFlat_cons.2 ⟨by decide, hplaces⟩⟩

theorem isFlat_text (x : Binary64) : IsFlat x.text.toList := by
  have hzero : IsFlat ['0', '.', '0'] := ⟨by decide, by decide⟩
  cases x with
  | infinite negative => cases negative <;> exact ⟨by decide, by decide⟩
  | finite negative significand exponent =>
    rw [Binary64.text, String.toList_ofList]
    split_ifs
    · exact isFlat_cons.2 ⟨by decide, hzero⟩
    · exact isFlat_cons.2 ⟨by decide, isFlat_layout (isFlat_toDigits _) _⟩
    · exact hzero
    · exact isFlat_layout (isFlat_toDigits _) _

theorem mem_escape {mark c : Char} (hmark : mark = '(' ∨ mark = ')') (h : mark ∈ Literal.escape c) :
    c = mark := by
  unfold Literal.escape at h
  split_ifs at h
  case neg => exact (List.mem_singleton.1 h).symm
  all_goals rcases hmark with rfl | rfl <;> exact absurd h (by decide)

theorem isFlat_quote {text : String} (h : IsFlat text.toList) :
    IsFlat (Literal.quote text).toList := by
  have hmark : ∀ {mark : Char}, mark = '(' ∨ mark = ')' → mark ∉ text.toList →
      mark ∉ (Literal.quote text).toList := by
    intro mark hmark htext hmem
    rw [Literal.quote, String.toList_ofList, Literal.quoteChars] at hmem
    simp only [List.mem_append, List.mem_cons, List.mem_flatMap, List.not_mem_nil, or_false] at hmem
    rcases hmem with (rfl | ⟨c, hc, hescape⟩) | rfl
    · exact absurd hmark (by decide)
    · exact htext (mem_escape hmark hescape ▸ hc)
    · exact absurd hmark (by decide)
  exact ⟨hmark (Or.inl rfl) h.1, hmark (Or.inr rfl) h.2⟩

/-! ### The pools -/

/-- All values in a pool have at most one level of parentheses. -/
def Shallow (members : List String) : Prop := ∀ value ∈ members, NestsWithin 1 value

instance : DecidablePred Shallow :=
  fun members => inferInstanceAs (Decidable (∀ value ∈ members, NestsWithin 1 value))

theorem shallow_append {front back : List String} (hfront : Shallow front) (hback : Shallow back) :
    Shallow (front ++ back) := List.forall_mem_append.2 ⟨hfront, hback⟩

theorem shallow_singleton {value : String} (h : NestsWithin 1 value) : Shallow [value] :=
  List.forall_mem_singleton.2 h

theorem always_drawMany {α : Type} {P : α → Prop} {draw : Random α} (h : Always P draw)
    (count : ℕ) :
    Always (fun drawn => ∀ a ∈ drawn, P a) (drawMany draw count) := by
  induction count with
  | zero => exact Twister.always_pure (List.forall_mem_nil _)
  | succ count ih =>
    refine h.bind fun first hfirst => ih.bind fun rest hrest => ?_
    exact Twister.always_pure (List.forall_mem_cons.2 ⟨hfirst, hrest⟩)

theorem always_randomInt : Always (NestsWithin 1) randomInt :=
  Twister.always_bind fun n => Twister.always_pure (.of_isFlat (isFlat_intText n))

theorem always_integerPool {name : String} (h : name ∈ TypeText.integerNames) :
    Always Shallow (integerPool name) := by
  have hcommon : ∀ name ∈ TypeText.integerNames,
      Shallow ["0", "1", "-1", name ++ ".MAX_VALUE", name ++ ".MIN_VALUE"] := by
    decide
  refine Twister.always_ite (fun _ => ?_) fun _ => Twister.always_pure (hcommon name h)
  refine always_randomInt.bind fun random hrandom => Twister.always_pure ?_
  have hnear : Shallow ["Int.MAX_VALUE - 1", "Int.MIN_VALUE + 1"] := by decide
  exact shallow_append (hcommon name h) (shallow_append hnear (shallow_singleton hrandom))

theorem always_longPool : Always Shallow longPool := by
  refine always_randomInt.bind fun random hrandom => Twister.always_pure ?_
  have hothers : Shallow ["0L", "1L", "-1L", "Long.MAX_VALUE", "Long.MIN_VALUE",
    "Long.MAX_VALUE - 1", "Long.MIN_VALUE + 1"] := by decide
  exact shallow_append hothers (shallow_singleton (hrandom.append (by decide)))

theorem always_floatingPool {name : String} (h : name ∈ TypeText.floatingNames) :
    Always Shallow (floatingPool name) := by
  have hnumbers : ∀ suffix ∈ ["", "f"], NestsWithin 1 suffix ∧
      Shallow ["0.0" ++ suffix, "1.0" ++ suffix, "-1.0" ++ suffix] := by
    decide
  have hconstants : ∀ name ∈ TypeText.floatingNames,
    Shallow [name ++ ".MAX_VALUE", name ++ ".MIN_VALUE", name ++ ".NaN",
      name ++ ".POSITIVE_INFINITY", name ++ ".NEGATIVE_INFINITY"] := by
    decide
  have hsuffix : (if name = "Float" then "f" else "") ∈ ["", "f"] := by split_ifs <;> decide
  obtain ⟨hplain, hfirst⟩ := hnumbers _ hsuffix
  refine Twister.always_bind fun random => Twister.always_pure ?_
  have hrandom := (NestsWithin.of_isFlat (isFlat_text (random.roundPlaces 2))).append hplain
  exact shallow_append hfirst (shallow_append (hconstants name h) (shallow_singleton hrandom))

theorem always_textPool : Always Shallow textPool := by
  have hletters : ∀ count, Always (fun letters => ∀ c ∈ letters, c ∈ asciiLetters)
      (drawMany (Twister.choose 'a' asciiLetters) count) :=
    fun count => always_drawMany (Twister.always_choose (by decide) fun _ hc => hc) count
  have hflat : IsFlat asciiLetters := ⟨by decide, by decide⟩
  refine Twister.always_bind fun length => (hletters _).bind fun letters hsub =>
    Twister.always_pure ?_
  have hquote : NestsWithin 1 (Literal.quote (String.ofList letters)) :=
    .of_isFlat (isFlat_quote (by rw [String.toList_ofList]; exact hflat.of_subset hsub))
  have hblank : Shallow ["\"\"", "\" \""] := by decide
  exact shallow_append hblank (shallow_append (shallow_singleton hquote) (by decide))

/-! ### Levels of parentheses -/

/-- How deep the parentheses of a value may nest at a depth of collections: one level for each depth
before the greatest, and one for what stands there. -/
def levels (depth : Int) : ℕ := (max 1 (maxDepth + 1 - depth)).toNat

/-- A bound on the levels of all values of all types, at each depth. -/
def Bounded (part : String → Int → Random String) : Prop :=
  ∀ type depth, Always (NestsWithin (levels depth)) (part type depth)

theorem one_le_levels (depth : Int) : 1 ≤ levels depth := by
  rw [levels]
  omega

theorem levels_of_lt {depth : Int} (h : depth < maxDepth) :
    levels depth = levels (depth + 1) + 1 := by
  rw [levels, levels]
  omega

theorem nestsWithin_callFactory {limit : ℕ} {factory : String} {members : List String}
    (hfactory : NestsWithin (limit + 1) factory) (h : ∀ value ∈ members, NestsWithin limit value) :
    NestsWithin (limit + 1) (callFactory factory members) := by
  have hinside : NestsWithin limit (", ".intercalate members) :=
    nestsWithin_intercalate ⟨by decide, by decide⟩ h
  have hcall : callFactory factory members =
      factory ++ ("(" ++ ", ".intercalate members ++ ")") := by
    rw [callFactory, String.append_assoc, String.append_assoc, String.append_assoc]
  rw [hcall]
  exact hfactory.append hinside.parenthesized

/-- A call of a factory has one level more than its elements, of which there are none at the
greatest depth. -/
theorem always_elements {draw : Random String} {depth : Int} {factory : String}
    (hfactory : NestsWithin 1 factory)
    (h : Always (NestsWithin (levels (depth + 1))) draw) :
    Always (fun members => NestsWithin (levels depth) (callFactory factory members))
      (elements draw depth) := by
  refine Twister.always_ite (fun _ => Twister.always_pure ?_) fun hdepth => ?_
  · exact (nestsWithin_callFactory hfactory (List.forall_mem_nil _)).mono (one_le_levels depth)
  · refine Twister.always_bind fun count =>
      (always_drawMany h count.toNat).mono fun members hmembers => ?_
    rw [levels_of_lt (Int.not_le.1 hdepth)]
    exact nestsWithin_callFactory (hfactory.mono (by omega)) hmembers

theorem always_callFactory {draw : Random String} {depth : Int} {factory : String}
    (hfactory : NestsWithin 1 factory)
    (h : Always (NestsWithin (levels (depth + 1))) draw) :
    Always (NestsWithin (levels depth)) (do return callFactory factory (← elements draw depth)) :=
  (always_elements hfactory h).bind fun _ hmembers => Twister.always_pure hmembers

theorem always_collection {draw : String → Random String} {depth : Int} (type name : String)
    (h : ∀ element, Always (NestsWithin (levels (depth + 1))) (draw element)) :
    Always (NestsWithin (levels depth)) (collection type name depth draw) := by
  have hneutral : NestsWithin (levels depth) (neutral type) :=
    (nestsWithin_neutral type).mono (one_le_levels depth)
  have hfactory : NestsWithin 1 ((collectionFactory? name).getD "listOf") := by
    cases hname : collectionFactory? name with
    | none =>
      show NestsWithin 1 "listOf"
      decide
    | some factory =>
      have hall : ∀ factory ∈ TypeText.collectionFactories.map (·.2), NestsWithin 1 factory := by
        decide
      exact hall factory (mem_map_snd_of_lookup hname)
  unfold collection
  extract_lets factory arguments
  clear_value arguments
  refine Twister.always_ite (fun _ => ?_) fun _ => ?_
  · -- a map has a value of each of its two arguments
    split
    · refine Twister.always_ite (fun _ => Twister.always_pure hneutral) fun hdepth => ?_
      refine (h _).bind fun key hkey => (h _).bind fun value hvalue => Twister.always_pure ?_
      have hpair : NestsWithin (levels (depth + 1)) (key ++ " to " ++ value) :=
        (hkey.append (.of_isFlat ⟨by decide, by decide⟩)).append hvalue
      rw [levels_of_lt (Int.not_le.1 hdepth)]
      exact nestsWithin_callFactory (hfactory.mono (by omega)) (List.forall_mem_singleton.2 hpair)
    · exact Twister.always_pure hneutral
  · split
    · exact Twister.always_pure hneutral
    · refine (always_elements hfactory (h _)).bind fun members hmembers => ?_
      exact Twister.always_ite (fun _ => Twister.always_pure hneutral) fun _ =>
        Twister.always_pure hmembers

/-- A value from a pool. -/
theorem always_choose_shallow {pool : Random (List String)} (h : Always Shallow pool)
    (depth : Int) :
    Always (NestsWithin (levels depth)) (pool >>= Twister.choose mock) :=
  h.bind fun _ hmembers => (Twister.always_choose (by decide) hmembers).mono fun _ hvalue =>
    hvalue.mono (one_le_levels depth)

/-- **A step keeps the bound on the levels.** Where the depth stays the same, the value is that of a
part. -/
theorem always_poolStep {part : String → Int → Random String} (h : Bounded part) :
    Bounded (poolStep part) := by
  intro type depth
  have hpure : ∀ {value : String}, NestsWithin 1 value →
      Always (NestsWithin (levels depth)) (pure value) :=
    fun hvalue => Twister.always_pure (hvalue.mono (one_le_levels depth))
  have hneutral := hpure (nestsWithin_neutral type)
  unfold poolStep
  extract_lets name
  refine Twister.always_ite (fun _ => hpure (by decide)) fun _ => ?_
  refine Twister.always_ite (fun _ => Twister.always_bind fun isNull => ?_) fun _ => ?_
  · exact Twister.always_ite (fun _ => hpure (by decide)) fun _ => h _ depth
  refine Twister.always_ite (fun _ => hneutral) fun _ => ?_
  -- the types with a pool
  refine Twister.always_ite (fun hname =>
    always_choose_shallow (always_integerPool hname) depth) fun _ => ?_
  refine Twister.always_ite (fun _ => always_choose_shallow always_longPool depth) fun _ => ?_
  refine Twister.always_ite (fun hname =>
    always_choose_shallow (always_floatingPool hname) depth) fun _ => ?_
  refine Twister.always_ite (fun _ => always_choose_shallow always_textPool depth) fun _ => ?_
  have hboolean : Shallow ["true", "false"] := by decide
  have hchar : Shallow charPool := by decide
  refine Twister.always_ite (fun _ =>
    always_choose_shallow (Twister.always_pure hboolean) depth) fun _ => ?_
  refine Twister.always_ite (fun _ =>
    always_choose_shallow (Twister.always_pure hchar) depth) fun _ => ?_
  -- the types with elements
  refine Twister.always_ite (fun _ => always_collection type name fun element =>
    h element (depth + 1)) fun _ => ?_
  split
  · rename_i factory hfactory
    have hall : ∀ factory ∈ TypeText.arrayFactories.map (·.2), NestsWithin 1 factory := by decide
    exact always_callFactory (hall factory (mem_map_snd_of_lookup hfactory)) (h _ (depth + 1))
  · refine Twister.always_ite (fun _ => ?_) fun _ => hneutral
    split
    · exact hpure (by decide)
    · refine Twister.always_ite (fun _ => hpure (by decide)) fun _ => ?_
      exact always_callFactory (by decide) (h _ (depth + 1))

/-! ### Parts of a type -/

variable {type : String}

/-- A type without its question mark is shorter. -/
theorem length_dropLast_of_isNullable (h : TypeText.isNullable type = true) :
    (String.ofList (Text.trim type.toList).dropLast).length < type.length := by
  obtain ⟨before, htrim⟩ := List.getLast?_eq_some_iff.1 (beq_iff_eq.1 h)
  have hle : (Text.trim type.toList).length ≤ type.length := Text.length_trim_le type.toList
  rw [htrim, List.length_append, List.length_singleton] at hle
  rw [htrim, List.dropLast_concat, String.length_ofList]
  omega

theorem collection_congr {draw other : String → Random String}
    (h : ∀ element ∈ TypeText.arguments type, draw element = other element) (name : String)
    (depth : Int) :
    collection type name depth draw = collection type name depth other := by
  unfold collection
  extract_lets factory arguments
  have hdraw : ∀ element ∈ arguments, draw element = other element := h
  clear_value arguments
  rcases arguments with - | ⟨first, - | ⟨second, - | ⟨third, rest⟩⟩⟩
  · rfl
  · simp only [hdraw first List.mem_cons_self]
  · have hsecond : draw second = other second := hdraw second (by simp)
    simp only [hdraw first List.mem_cons_self, hsecond]
  · simp only [hdraw first List.mem_cons_self]

/-- **A step looks at shorter types only.** -/
theorem poolStep_congr {part other : String → Int → Random String}
    (h : ∀ shorter, shorter.length < type.length → part shorter = other shorter) (depth : Int) :
    poolStep part type depth = poolStep other type depth := by
  unfold poolStep
  extract_lets name
  by_cases hempty : type = ""
  · rw [if_pos hempty, if_pos hempty]
  rw [if_neg hempty, if_neg hempty]
  by_cases hnullable : TypeText.isNullable type = true
  · rw [if_pos hnullable, if_pos hnullable, h _ (length_dropLast_of_isNullable hnullable)]
  rw [if_neg hnullable, if_neg hnullable]
  have harguments : ∀ element ∈ TypeText.arguments type, part element = other element :=
    fun element helement => h element (TypeText.length_lt_of_mem_arguments helement)
  have hcollection := collection_congr (fun element helement =>
    congrFun (harguments element helement) (depth + 1)) name depth
  have helement : part (String.ofList (name.toList.take (name.length - "Array".length))) =
      other (String.ofList (name.toList.take (name.length - "Array".length))) := by
    refine h _ ?_
    have hname : name.length ≤ type.length := TypeText.length_base_le type
    have htype : type.length ≠ 0 := fun hzero => hempty (String.length_eq_zero_iff.1 hzero)
    have harray : "Array".length = 5 := rfl
    rw [String.length_ofList, List.length_take]
    omega
  rw [hcollection, helement]
  cases hall : TypeText.arguments type with
  | nil => dsimp only
  | cons first rest =>
    have hfirst : part first = other first := harguments first (hall ▸ List.mem_cons_self)
    dsimp only
    rw [hfirst]

/-! ### Boundary values -/

/-- Two bounds on how often a type is taken apart make no difference, if both are above the length
of the type. -/
theorem iterate_poolStep_eq {stuck other : String → Int → Random String} {n m : ℕ}
    (hn : type.length < n)
    (hm : type.length < m) (depth : Int) :
      poolStep^[n] stuck type depth = poolStep^[m] other type depth := by
  induction n generalizing type m depth with
  | zero => omega
  | succ n ih =>
    obtain ⟨m, rfl⟩ := Nat.exists_eq_succ_of_ne_zero (Nat.ne_of_gt (Nat.zero_lt_of_lt hm))
    rw [Function.iterate_succ_apply', Function.iterate_succ_apply']
    exact poolStep_congr (fun shorter hshorter => funext fun depth =>
      ih (by omega) (by omega) depth) depth

theorem poolWithin_eq_iterate (fuel : ℕ) : poolWithin fuel = poolStep^[fuel]
    (fun _ _ => pure mock) := by
  induction fuel with
  | zero => rfl
  | succ fuel ih =>
    rw [Function.iterate_succ_apply', ← ih]
    rfl

/-- Taking types apart more often than a type has characters gives its boundary value, whatever
would come after that. -/
theorem iterate_poolStep (stuck : String → Int → Random String) {n : ℕ} (hn : type.length < n)
    (depth : Int) :
    poolStep^[n] stuck type depth = pool type depth := by
  rw [pool, poolWithin_eq_iterate]
  exact iterate_poolStep_eq hn (Nat.lt_succ_self _) depth

/-- A boundary value is put together from the boundary values of the parts of its type. -/
theorem pool_eq_poolStep (type : String) (depth : Int) :
    pool type depth = poolStep pool type depth := by
  have hlength : type.length < type.length + 1 + 1 :=
    Nat.lt_add_one_of_lt (Nat.lt_succ_self type.length)
  rw [← iterate_poolStep (fun _ _ => pure mock) hlength, Function.iterate_succ_apply']
  exact poolStep_congr (fun shorter hshorter => funext fun depth =>
    iterate_poolStep _ (by omega) depth) depth

theorem bounded_poolWithin (fuel : ℕ) : Bounded (poolWithin fuel) := by
  induction fuel with
  | zero =>
    exact fun _ depth => Twister.always_pure (NestsWithin.mono (by decide) (one_le_levels depth))
  | succ fuel ih => exact always_poolStep ih

/-- **Boundary values end and stay shallow.** Whatever the text of a type is, its boundary value is
reached by taking types apart as often as the text has characters and once more, so that the
recursion ends. Whatever is drawn, the parentheses of the value belong together, and nest no deeper
than there are depths left and one more level: three levels at the start. -/
theorem pool_nests (type : String) (depth : Int) :
    (∀ stuck more, poolStep^[type.length + 1 + more] stuck type depth = pool type depth) ∧
    pool type depth = poolStep pool type depth ∧
    (∀ rng, NestsWithin (levels depth) (pool type depth rng).1) ∧
    ∀ rng, NestsWithin 3 (pool type 0 rng).1 :=
  ⟨fun stuck more => iterate_poolStep stuck (by omega) depth, pool_eq_poolStep type depth,
    bounded_poolWithin _ type depth, bounded_poolWithin _ type 0⟩

end BranchCover.Value
