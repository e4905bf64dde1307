/-!
# Random numbers for scenarios

A generator with four words of state, its expansion from a seed, and draws from ranges without
bias: a draw that falls into the incomplete last repetition of the range is thrown away.

Main result: `Random.drawBelow_lt`, a draw stays below the size of its range.
-/

namespace TrafficQueue

/-- The state of a generator. -/
structure Random where
  s0 : UInt64
  s1 : UInt64
  s2 : UInt64
  s3 : UInt64
deriving DecidableEq

namespace Random

/-- Rotates a word to the left. -/
def rotateLeft (x : UInt64) (n : UInt64) : UInt64 :=
  (x <<< n) ||| (x >>> (64 - n))

/-- Rotates half a word to the right. -/
def rotateRight32 (x : UInt32) (n : UInt32) : UInt32 :=
  (x >>> n) ||| (x <<< ((32 - n) % 32))

/-! ## Seeding -/

/-- One step of the congruential generator that expands a seed. -/
def expandStep (state : UInt64) : UInt64 :=
  state * 6364136223846793005 + 11634580027462260723

/-- The 32 bits that a state of the expansion gives. -/
def expandOutput (state : UInt64) : UInt32 :=
  rotateRight32 (((state >>> 18) ^^^ state) >>> 27).toUInt32 (state >>> 59).toUInt32

/-- A word of 64 bits from two steps of the expansion, the low half first. -/
def expandWord (state : UInt64) : UInt64 × UInt64 :=
  let first := expandStep state
  let second := expandStep first
  ((expandOutput first).toUInt64 ||| ((expandOutput second).toUInt64 <<< 32), second)

/-- The generator for a seed. -/
def ofSeed (seed : UInt64) : Random :=
  let (s0, state) := expandWord seed
  let (s1, state) := expandWord state
  let (s2, state) := expandWord state
  let (s3, _) := expandWord state
  ⟨s0, s1, s2, s3⟩

/-- The generator for one of the independent streams of a seed. -/
def ofStream (seed stream : UInt64) : Random :=
  ofSeed (seed ^^^ (stream * 0x9e3779b97f4a7c15))

/-! ## Drawing -/

/-- The next word and the generator after it. -/
def next (r : Random) : UInt64 × Random :=
  let out := rotateLeft (r.s0 + r.s3) 23 + r.s0
  let t := r.s1 <<< 17
  let s2 := r.s2 ^^^ r.s0
  let s3 := r.s3 ^^^ r.s1
  let s1 := r.s1 ^^^ s2
  let s0 := r.s0 ^^^ s3
  (out, ⟨s0, s1, s2 ^^^ t, rotateLeft s3 45⟩)

/-- The upper half of the next word. -/
def nextHalf (r : Random) : UInt32 × Random :=
  let (x, r) := r.next
  ((x >>> 32).toUInt32, r)

/-- Draws a number below `size` from words of `bits` bits.  The upper part of the product with
`size` is the answer, unless the lower part lies beyond the last complete repetition.  A word is
refused with a probability below one half, so the bound on refusals is not met in practice. -/
def drawBelow (word : Random → Nat × Random) (bits size : Nat) : Nat → Random → Nat × Random
  | 0, r => (0, r)
  | attempts + 1, r =>
    let zone := size <<< (bits - 1 - size.log2) - 1
    let (v, r) := word r
    let product := v * size
    if product % (1 <<< bits) ≤ zone then (product >>> bits, r)
    else drawBelow word bits size attempts r

/-- More refusals in a row than any generator shows. -/
def maxAttempts : Nat := 4096

/-- Draws a number below `size`, at most two to the 64. -/
def below64 (r : Random) (size : Nat) : Nat × Random :=
  if UInt64.size ≤ size then
    let (x, r) := r.next
    (x.toNat, r)
  else drawBelow (fun r => let (x, r) := r.next; (x.toNat, r)) 64 size maxAttempts r

/-- Draws a number below `size`, at most two to the 32, from upper halves. -/
def below32 (r : Random) (size : Nat) : Nat × Random :=
  drawBelow (fun r => let (x, r) := r.nextHalf; (x.toNat, r)) 32 size maxAttempts r

/-- Draws from `low` to `high` without `high`; an empty range has no draw. -/
def range (r : Random) (low high : Nat) : Option (Nat × Random) :=
  if low < high then
    let (n, r) := r.below64 (high - low)
    some (low + n, r)
  else none

/-- Draws from `low` to `high` with both ends; an empty range has no draw. -/
def rangeInclusive (r : Random) (low high : Nat) : Option (Nat × Random) :=
  if low ≤ high then
    let (n, r) := r.below64 (high - low + 1)
    some (low + n, r)
  else none

/-- Draws from `low` to `high` without `high`, out of 32 bits; an empty range has no draw. -/
def range32 (r : Random) (low high : Nat) : Option (Nat × Random) :=
  if low < high then
    let (n, r) := r.below32 (high - low)
    some (low + n, r)
  else none

/-- Draws `true` with the given probability, taken as zero or one outside of that range.  Certainty
draws nothing, and not-a-number has no draw. -/
def bool (r : Random) (p : Float) : Option (Bool × Random) :=
  if p.isNaN then none
  else if 1 ≤ p then some (true, r)
  else
    let bound : UInt64 := if p < 0 then 0 else (p * 18446744073709551616).toUInt64
    let (x, r) := r.next
    some (x < bound, r)

/-- Draws a position in a list of the given length. -/
def position (r : Random) (length : Nat) : Option Nat × Random :=
  if length = 0 then (none, r)
  else
    let (i, r) := r.below32 length
    (some i, r)

/-- Draws an element; the empty list has none. -/
def choose {α : Type} (r : Random) (xs : Array α) : Option α × Random :=
  let (i, r) := r.position xs.size
  (i.bind (xs[·]?), r)

/-- A draw stays below the size of its range. -/
theorem drawBelow_lt {word : Random → Nat × Random} {bits size : Nat}
    (hword : ∀ r, (word r).1 < 1 <<< bits) (hsize : 0 < size) (attempts : Nat) (r : Random) :
    (drawBelow word bits size attempts r).1 < size := by
  induction attempts generalizing r with
  | zero => exact hsize
  | succ n ih =>
    simp only [drawBelow]
    split
    · have hlt := hword r
      rw [Nat.one_shiftLeft] at hlt
      rw [Nat.shiftRight_eq_div_pow]
      refine (Nat.div_lt_iff_lt_mul (Nat.two_pow_pos bits)).2 ?_
      rw [Nat.mul_comm]
      exact (Nat.mul_lt_mul_left hsize).2 hlt
    · exact ih _

end Random

end TrafficQueue
