import BranchCover.Proofs.Number.Reading
import BranchCover.Value.Atom

/-!
# Values that can be read

`Readable` says of a text that the number it writes can be read, and that it fits in 64 bits if it
is an integer. A text that starts with neither a sign nor a digit is no number, and readable for
that reason; so are all values that depend on a type alone.

* `readable_of_startsOtherwise`: texts that are no numbers.
* `neutral_readable`, `emptinessValue_readable`: values that depend on the type alone.
-/

namespace BranchCover.Value

/-- The number that a text writes, if any, can be read; an integer has 64 bits at most. -/
def Readable (text : String) : Prop :=
  ∃ number, Number.parse text = .ok number ∧
    ∀ n, number = some (.integer n) → -9223372036854775808 ≤ n ∧ n ≤ 9223372036854775807

theorem Readable.returns_parse {text : String} (h : Readable text) : Returns (Number.parse text) :=
  ⟨h.choose, h.choose_spec.1⟩

theorem readable_trimmed_iff {text : String} : Readable (trimmed text) ↔ Readable text := by
  simp [Readable]

/-- Whether a text starts with a character that is no blank, sign or digit. -/
def startsOtherwise (text : String) : Bool :=
  text.toList.head?.any fun c => !Text.isBlank c && !Text.isDecimal c && c != '-'

theorem parse_of_startsOtherwise {text : String} (h : startsOtherwise text = true) :
    Number.parse text = .ok none := by
  unfold startsOtherwise at h
  cases hc : text.toList.head? with
  | none => simp [hc] at h
  | some c =>
    simp only [hc, Option.any_some, Bool.and_eq_true, Bool.not_eq_true', bne_iff_ne, ne_eq] at h
    exact Number.parse_of_head hc h.1.1 h.1.2 h.2

theorem readable_of_startsOtherwise {text : String} (h : startsOtherwise text = true) :
    Readable text := ⟨none, parse_of_startsOtherwise h, by simp⟩

theorem startsOtherwise_append {text : String} (h : startsOtherwise text = true) (rest : String) :
    startsOtherwise (text ++ rest) = true := by
  unfold startsOtherwise at h ⊢
  rw [String.toList_append]
  cases hc : text.toList with
  | nil => simp [hc] at h
  | cons c cs => simpa [hc] using h

/-! ### Values of types -/

theorem mem_map_snd_of_lookup {table : List (String × String)} {name factory : String}
    (h : table.lookup name = some factory) : factory ∈ table.map (·.2) := by
  induction table with
  | nil => simp at h
  | cons pair table ih =>
    obtain ⟨key, value⟩ := pair
    rw [List.lookup_cons] at h
    split at h
    · simp_all
    · exact List.mem_cons_of_mem _ (ih h)

theorem startsOtherwise_collectionFactory {name factory : String}
    (h : collectionFactory? name = some factory) : startsOtherwise factory = true := by
  have hall : ∀ f ∈ TypeText.collectionFactories.map (·.2), startsOtherwise f = true := by decide
  exact hall factory (mem_map_snd_of_lookup h)

theorem startsOtherwise_arrayFactory {name factory : String}
    (h : arrayFactory? name = some factory) : startsOtherwise factory = true := by
  have hall : ∀ f ∈ TypeText.arrayFactories.map (·.2), startsOtherwise f = true := by decide
  exact hall factory (mem_map_snd_of_lookup h)

theorem startsOtherwise_lambda (parameters : ℕ) (body : String) :
    startsOtherwise (lambda parameters body) = true := by
  cases parameters with
  | zero =>
    rw [lambda]
    split
    · decide
    · exact startsOtherwise_append (startsOtherwise_append (by decide) _) _
  | succ n =>
    exact startsOtherwise_append (startsOtherwise_append (startsOtherwise_append
      (startsOtherwise_append (by decide) _) _) _) _

theorem readable_zero : Readable "0" :=
  ⟨some (.integer 0), rfl, by rintro n h; cases h; omega⟩

theorem readable_zeroLong : Readable "0L" :=
  ⟨some (.integer 0), rfl, by rintro n h; cases h; omega⟩

/-- A floating number is never read as an integer. -/
theorem readable_of_mark {text : String} {c : Char} (hc : c ∈ text.toList)
    (hmark : c = '.' ∨ c = 'e' ∨ c = 'n') : Readable text := by
  have hread : ∃ number, Number.parse text = .ok number ∧ ∀ n, number ≠ some (.integer n) := by
    rcases hmark with rfl | rfl | rfl <;>
      exact Number.parse_of_mem hc (by decide) (by decide) (by decide)
  obtain ⟨number, hparse, hne⟩ := hread
  exact ⟨number, hparse, fun n hn => absurd hn (hne n)⟩

theorem startsOtherwise_ite {p : Prop} [Decidable p] {a b : String}
    (ha : startsOtherwise a = true) (hb : startsOtherwise b = true) :
    startsOtherwise (if p then a else b) = true := by
  by_cases hp : p
  · rwa [if_pos hp]
  · rwa [if_neg hp]

theorem readable_ite {p : Prop} [Decidable p] {a b : String} (ha : Readable a) (hb : Readable b) :
    Readable (if p then a else b) := by
  by_cases hp : p
  · rwa [if_pos hp]
  · rwa [if_neg hp]

theorem plainNeutral_readable (type : String) : Readable (plainNeutral type) := by
  unfold plainNeutral
  refine readable_ite readable_zero (readable_ite readable_zeroLong ?_)
  refine readable_ite (readable_of_mark (c := '.') (by decide) (by simp))
    (readable_ite (readable_of_mark (c := '.') (by decide) (by simp)) ?_)
  -- no other neutral value starts like a number
  refine readable_of_startsOtherwise ?_
  refine startsOtherwise_ite (by decide) (startsOtherwise_ite (by decide) ?_)
  refine startsOtherwise_ite (by decide) (startsOtherwise_ite (by decide) ?_)
  refine startsOtherwise_ite (by decide) (startsOtherwise_ite (by decide) ?_)
  refine startsOtherwise_ite (by decide) ?_
  split
  · rename_i factory hfactory
    exact startsOtherwise_append (startsOtherwise_collectionFactory hfactory) _
  · split
    · rename_i factory hfactory
      exact startsOtherwise_append (startsOtherwise_arrayFactory hfactory) _
    · exact startsOtherwise_ite (by decide) (startsOtherwise_ite (by decide) (by decide))

theorem neutralWithin_readable (depth : ℕ) (type : String) :
    Readable (neutralWithin depth type) := by
  have hmock : Readable mock := readable_of_startsOtherwise (by decide)
  cases depth with
  | zero => exact hmock
  | succ depth =>
    rw [neutralWithin]
    refine readable_ite hmock (readable_ite ?_ (plainNeutral_readable type))
    exact readable_of_startsOtherwise (startsOtherwise_lambda _ _)

theorem neutral_readable (type : String) : Readable (neutral type) := neutralWithin_readable _ type

theorem startsOtherwise_factory {name factory : String}
    (h : (collectionFactory? name <|> arrayFactory? name) = some factory) :
    startsOtherwise factory = true := by
  simp only [Option.orElse_eq_orElse, Option.orElse_eq_or, Option.or_eq_some_iff] at h
  rcases h with h | ⟨-, h⟩
  · exact startsOtherwise_collectionFactory h
  · exact startsOtherwise_arrayFactory h

theorem emptinessValue_readable (type predicate : String) (desired : Bool) :
    Readable (emptinessValue type predicate desired) := by
  refine readable_of_startsOtherwise ?_
  unfold emptinessValue
  extract_lets
  -- which test is made and what is wanted of it does not matter
  split
  split
  · rename_i factory hfactory
    have hstart := startsOtherwise_factory hfactory
    refine startsOtherwise_ite (startsOtherwise_append hstart _) ?_
    exact startsOtherwise_append (startsOtherwise_append (startsOtherwise_append hstart _) _) _
  · refine startsOtherwise_ite ?_ ?_ <;> exact startsOtherwise_ite (by decide) (by decide)

end BranchCover.Value
