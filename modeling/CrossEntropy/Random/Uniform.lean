import CrossEntropy.Random.Source

/-!
# Uniform draws

Integers are drawn by multiplying a word with the number of values: the high half of the product
is the value, and words whose low half is past the last full zone are rejected.

* `Draw.size`: a number between two bounds;
* `IntRange`, `Draw.int32`: a 32-bit integer of a range;
* `Draw.coin`: a fair coin;
* `Draw.single`: a 32-bit floating-point number between two bounds.
-/

namespace CrossEntropy

/-- A nonempty range of 32-bit integers, the upper end excluded. -/
structure IntRange where
  low : Int32
  high : Int32
  low_lt_high : low < high

/-- The range between two ends, if it is not empty. -/
def IntRange.of? (low high : Int32) : Option IntRange :=
  if h : low < high then some ⟨low, high, h⟩ else none

namespace Draw

variable {σ : Type} [Source σ]

/-- A number from `a` to `b`, both included. -/
@[specialize] def size (a b : Nat) (h : a ≤ b) : Draw σ {k : Nat // a ≤ k ∧ k ≤ b} :=
  let range := b - a + 1
  let zone := (range <<< (63 - Nat.log2 range)) - 1
  let sample : Draw σ (Option {k : Nat // a ≤ k ∧ k ≤ b}) := do
    let word ← word64
    let product := word.toNat * range
    return if product % UInt64.size ≤ zone then
      some ⟨a + product / UInt64.size, Nat.le_add_right .., by
        have : product / UInt64.size < range :=
          Nat.div_lt_of_lt_mul (Nat.mul_lt_mul_of_pos_right word.toNat_lt (Nat.succ_pos _))
        omega⟩
    else none
  firstAccepted ⟨a, Nat.le_refl a, h⟩ sample attempts

/-- An integer of a range. -/
@[specialize] def int32 (r : IntRange) : Draw σ Int32 :=
  let range := (r.high - r.low).toUInt32
  let zone := 0xffffffff - (0 - range) % range
  let sample : Draw σ (Option Int32) := do
    let word ← word32
    let product := word.toUInt64 * range.toUInt64
    return if product.toUInt32 ≤ zone then some (r.low + (product >>> 32).toUInt32.toInt32)
    else none
  firstAccepted r.low sample attempts

/-- A fair coin. -/
@[specialize] def coin : Draw σ Bool := do
  return (← word64) < 0x8000000000000000

/-- The largest fraction of 23 bits below one. -/
def largestFraction : Float32 := .ofBits 0x3f7ffffe

/-- The largest scale, from the given one on, with which no sample reaches `high`. -/
def fittingScale (low high : Float32) : (tries : Nat) → Float32 → Float32
  | 0, scale => scale
  | tries + 1, scale =>
    if scale * largestFraction + low ≥ high then
      fittingScale low high tries (.ofBits (scale.toBits - 1))
    else scale

/-- A number from `low` on and below `high`. -/
@[specialize] def single (low high : Float32) : Draw σ Float32 := do
  let scale := fittingScale low high attempts (high - low)
  let word ← word32
  let fraction := Float32.ofBits (word >>> 9 ||| 0x3f800000) - 1
  return fraction * scale + low

end Draw

end CrossEntropy
