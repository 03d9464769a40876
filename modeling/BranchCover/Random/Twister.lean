/-!
# The Mersenne Twister

The generator behind every random choice: 624 words of 32 bits, renewed together, each tempered
before it is given out.

* `Twister.ofSeed`: the generator of an integer seed.
* `Twister.next`: the next word.
* `Twister.below`, `Twister.between`: a choice among the first `n` numbers, or in an interval.
* `Twister.unit`: the numerator over `unitSize` of a choice in the unit interval.
-/

namespace BranchCover

/-- A generator: its words, and how many of them are given out. -/
structure Twister where
  words : Array UInt32
  used : Nat
  deriving Inhabited

/-- A computation that draws random numbers. -/
abbrev Random := StateM Twister

namespace Twister

/-- The number of words. -/
def size : Nat := 624

/-- The words that a single word starts. -/
def spread (word : UInt32) : Array UInt32 :=
  (List.range (size - 1)).foldl (fun (words : Array UInt32) i =>
    let last := words.getD i 0
    words.push ((1812433253 : UInt32) * (last ^^^ (last >>> 30)) + (i + 1).toUInt32)) #[word]

/-- The place after a place in the array; the last word is copied to the front when it wraps. -/
def advance (words : Array UInt32) (i : Nat) : Array UInt32 × Nat :=
  if i + 1 < size then (words, i + 1) else (words.setIfInBounds 0 (words.getD (size - 1) 0), 1)

/-- Mixes words of a key into the array, one for each round, from a place on. -/
def mixKey (key : Array UInt32) : Nat → Array UInt32 → Nat → Nat → Array UInt32 × Nat
  | 0, words, i, _ => (words, i)
  | rounds + 1, words, i, j =>
    let last := words.getD (i - 1) 0
    let word := (words.getD i 0 ^^^ ((last ^^^ (last >>> 30)) * 1664525)) + key.getD j 0 +
      j.toUInt32
    let (words, i) := advance (words.setIfInBounds i word) i
    mixKey key rounds words i (if j + 1 < key.size then j + 1 else 0)

/-- Mixes the array with itself, one word for each round, from a place on. -/
def mixSelf : Nat → Array UInt32 → Nat → Array UInt32
  | 0, words, _ => words
  | rounds + 1, words, i =>
    let last := words.getD (i - 1) 0
    let word := (words.getD i 0 ^^^ ((last ^^^ (last >>> 30)) * 1566083941)) - i.toUInt32
    let (words, i) := advance (words.setIfInBounds i word) i
    mixSelf rounds words i

/-- The generator of a key of words. -/
def ofKey (key : Array UInt32) : Twister :=
  let (words, i) := mixKey key (max size key.size) (spread 19650218) 1 0
  let words := mixSelf (size - 1) words i
  { words := words.setIfInBounds 0 0x80000000, used := size }

/-- The words of 32 bits of a number, the lowest first, at most `limit` of them. -/
def wordsOf : Nat → Nat → List UInt32
  | 0, _ => []
  | limit + 1, n =>
    n.toUInt32 :: if n < UInt32.size then [] else wordsOf limit (n / UInt32.size)

/-- The generator of an integer seed; its sign does not matter. -/
def ofSeed (seed : Int) : Twister :=
  ofKey (wordsOf (seed.natAbs.log2 / 32 + 1) seed.natAbs).toArray

/-- The new word at a place, from the upper bit there and the lower bits behind it. -/
def renewAt (words : Array UInt32) (i : Nat) : Array UInt32 :=
  let word := (words.getD i 0 &&& 0x80000000) ||| (words.getD ((i + 1) % size) 0 &&& 0x7fffffff)
  let twist : UInt32 := if word &&& 1 = 1 then 0x9908b0df else 0
  words.setIfInBounds i (words.getD ((i + 397) % size) 0 ^^^ (word >>> 1) ^^^ twist)

/-- All words renewed, one after another. -/
def renew (words : Array UInt32) : Array UInt32 := (List.range size).foldl renewAt words

/-- A word as it is given out. -/
def temper (word : UInt32) : UInt32 :=
  let word := word ^^^ (word >>> 11)
  let word := word ^^^ ((word <<< 7) &&& 0x9d2c5680)
  let word := word ^^^ ((word <<< 15) &&& 0xefc60000)
  word ^^^ (word >>> 18)

/-- The next word. -/
def next : Random UInt32 := fun rng =>
  let rng := if rng.used < size then rng else { words := renew rng.words, used := 0 }
  (temper (rng.words.getD rng.used 0), { rng with used := rng.used + 1 })

/-- The highest `k` bits of the next word, for `k` up to 32. -/
def bits (k : Nat) : Random Nat := fun rng =>
  let (word, rng) := next rng
  (word.toNat / Nat.pow 2 (32 - k), rng)

/-- Draws `k` bits until they are below `n`. The number of attempts is bounded only so that there is
an end to them: the generator that this one stands for goes on until a draw is below `n`. Behind the
last attempt one more draw is reduced, and there the two differ. -/
def belowFrom (n k : Nat) : Nat → Random Nat
  | 0, rng =>
    let (draw, rng) := bits k rng
    (draw % n, rng)
  | attempts + 1, rng =>
    let (draw, rng) := bits k rng
    if draw < n then (draw, rng) else belowFrom n k attempts rng

/-- A choice among the numbers below `n`: as many bits as `n` has, drawn until they are below `n`.
Each attempt succeeds with a chance of at least a half, so that the cut of `belowFrom` is met with a
chance of at most one in `2 ^ 1000`. -/
def below (n : Nat) : Random Nat := fun rng => belowFrom n (n.log2 + 1) 1000 rng

/-- A choice among the integers from `low` on and below `high`. -/
def between (low high : Int) : Random Int := fun rng =>
  let (n, rng) := below (high - low).toNat rng
  (low + n, rng)

/-- The number of choices in the unit interval, which is `2 ^ 53`. -/
def unitSize : Nat := 9007199254740992

/-- A choice in the unit interval: its numerator over `unitSize`, from 27 bits and then 26 bits. -/
def unit : Random Nat := fun rng =>
  let (high, rng) := next rng
  let (low, rng) := next rng
  (high.toNat / 32 * 67108864 + low.toNat / 64, rng)

/-- Whether a choice in the unit interval is below `quarters` quarters. -/
def chance (quarters : Nat) : Random Bool := fun rng =>
  let (n, rng) := unit rng
  (n * 4 < quarters * unitSize, rng)

/-- A choice among the members of a list, and the given value for an empty one. -/
def choose (default : α) (members : List α) : Random α := fun rng =>
  let (i, rng) := below members.length rng
  (members.getD i default, rng)

end Twister

end BranchCover
