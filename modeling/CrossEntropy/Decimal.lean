/-!
# Decimal texts

64-bit numbers in decimal, and the text of a binary floating-point number: the fewest decimal digits
that read back as the same number, the nearest such to it (a tie goes up), written positionally.
Everything is computed exactly in natural numbers.

* `parseWord?`: digits, after an optional plus sign, whose value fits;
* **`parseWord?_repr`**: a printed number is read back;
* `BinaryFormat`: how many bits hold the fraction and the exponent;
* `Binary.ofBits`: the number that a bit pattern stands for;
* `Decimal.shortest`: the digits of a positive number `m * 2 ^ q`;
* `Decimal.positional`: digits and a power of ten as text;
* `Binary.text`, `textOfSingle`, `textOfDouble`: the text of a number.
-/

namespace CrossEntropy

/-! ## 64-bit numbers -/

/-- The digits of a numeral, less an optional plus sign. -/
def unsignedDigits : List Char → List Char
  | '+' :: digits => digits
  | digits => digits

/-- Reads a 64-bit number: one or more decimal digits after an optional plus sign. -/
def parseWord? (text : String) : Option UInt64 :=
  let digits := unsignedDigits text.toList
  if digits ≠ [] ∧ digits.all Char.isDigit ∧ Nat.ofDigitChars 10 digits 0 < UInt64.size then
    some (.ofNat (Nat.ofDigitChars 10 digits 0))
  else none

/-- The text of a 64-bit number. -/
def wordText (n : UInt64) : String := n.toNat.repr

/-- **A printed number is read back.** -/
theorem parseWord?_repr (n : UInt64) : parseWord? (wordText n) = some n := by
  have hdigit : ∀ c ∈ Nat.toDigits 10 n.toNat, c.isDigit = true := fun c hc =>
    Nat.isDigit_of_mem_toDigits (by decide) (by decide) hc
  have hsign : unsignedDigits (Nat.toDigits 10 n.toNat) = Nat.toDigits 10 n.toNat := by
    unfold unsignedDigits
    split
    next digits h => exact absurd (hdigit '+' (by rw [h]; simp)) (by decide)
    next => rfl
  have hvalue : Nat.ofDigitChars 10 (Nat.toDigits 10 n.toNat) 0 = n.toNat :=
    Nat.ofDigitChars_toDigits (by decide) (by decide)
  have hlt : n.toNat < UInt64.size := n.toNat_lt
  simp [parseWord?, wordText, Nat.repr_eq_ofList_toDigits, hsign, hvalue, hlt]
  exact hdigit

/-! ## Floating-point numbers -/

/-- The widths of a binary floating-point format. -/
structure BinaryFormat where
  fractionBits : Nat
  exponentBits : Nat

namespace BinaryFormat

/-- The format of 32 bits. -/
def single : BinaryFormat := ⟨23, 8⟩

/-- The format of 64 bits. -/
def double : BinaryFormat := ⟨52, 11⟩

/-- The power of two of the last fraction bit of the smallest numbers. -/
def leastExponent (f : BinaryFormat) : Int :=
  2 - (1 <<< (f.exponentBits - 1) : Nat) - f.fractionBits

end BinaryFormat

/-- The magnitude of a binary number. -/
inductive Binary
  | undefined
  | infinite
  /-- The number `m * 2 ^ q`. -/
  | finite (m : Nat) (q : Int)
  deriving DecidableEq, Repr

namespace Binary

/-- Whether the sign bit of a bit pattern is set. -/
def isNegative (f : BinaryFormat) (bits : Nat) : Bool :=
  bits.testBit (f.fractionBits + f.exponentBits)

/-- The magnitude that a bit pattern stands for. -/
def ofBits (f : BinaryFormat) (bits : Nat) : Binary :=
  let fraction := bits % (1 <<< f.fractionBits)
  let exponent := (bits >>> f.fractionBits) % (1 <<< f.exponentBits)
  if exponent + 1 = 1 <<< f.exponentBits then if fraction = 0 then infinite else undefined
  else if exponent = 0 then finite fraction f.leastExponent
  else finite ((1 <<< f.fractionBits) + fraction) (f.leastExponent + (exponent - 1 : Nat))

end Binary

namespace Decimal

/-- `x * 2 ^ q / 10 ^ j` as a fraction of natural numbers. -/
def scaled (x : Nat) (q j : Int) : Nat × Nat :=
  ((x <<< q.toNat) * Nat.pow 10 (-j).toNat, Nat.pow 10 j.toNat <<< (-q).toNat)

/-- The numbers that round to one number: `value` lies between `low` and `high`, in units of
`2 ^ q`; the ends belong to it if `closed`. -/
structure Interval where
  low : Nat
  value : Nat
  high : Nat
  q : Int
  closed : Bool

/-- What rounds to `m * 2 ^ q`. Below a power of two the spacing halves, except at the smallest
exponent. -/
def Interval.around (f : BinaryFormat) (m : Nat) (q : Int) : Interval where
  low := if m = 1 <<< f.fractionBits ∧ f.leastExponent < q then 4 * m - 1 else 4 * m - 2
  value := 4 * m
  high := 4 * m + 2
  q := q - 2
  closed := m % 2 == 0

/-- The multiple `n` of `10 ^ j` nearest to the value among those in the interval; of two at the
same distance the larger. -/
def Interval.multiple? (i : Interval) (j : Int) : Option Nat :=
  let (value, unit) := scaled i.value i.q j
  let (low, _) := scaled i.low i.q j
  let (high, _) := scaled i.high i.q j
  let n := value / unit
  let below := if i.closed then low ≤ n * unit else low < n * unit
  let above := if i.closed then (n + 1) * unit ≤ high else (n + 1) * unit < high
  if below then
    if above ∧ (2 * n + 1) * unit ≤ 2 * value then some (n + 1) else some n
  else if above then some (n + 1)
  else none

/-- The first grid, of `tries` from `10 ^ j` on to finer ones, that has a multiple in the
interval, and that multiple. -/
def Interval.firstMultiple (i : Interval) : (tries : Nat) → (j : Int) → Nat × Int
  | 0, j => (0, j)
  | tries + 1, j =>
    match i.multiple? j with
    | some n => (n, j)
    | none => i.firstMultiple tries (j - 1)

/-- A power of ten above `m * 2 ^ q`, and not far above. -/
def ceilingExponent (m : Nat) (q : Int) : Int :=
  (Nat.log2 m + 1 + q) * 30103 / 100000 + 1

/-- More digits than any number of the format needs. -/
def mostDigits (f : BinaryFormat) : Nat := f.fractionBits

/-- The fewest digits `n`, with a power of ten `j`, such that `n * 10 ^ j` reads back as
`m * 2 ^ q`. -/
def shortest (f : BinaryFormat) (m : Nat) (q : Int) : Nat × Int :=
  (Interval.around f m q).firstMultiple (mostDigits f) (ceilingExponent m q)

/-- `n * 10 ^ j` without an exponent. -/
def positional (n : Nat) (j : Int) : List Char :=
  let digits := Nat.toDigits 10 n
  let places := (-j).toNat
  let padded := List.replicate (places + 1 - digits.length) '0' ++ digits
  let whole := padded.take (padded.length - places)
  if places = 0 then digits ++ List.replicate j.toNat '0'
  else whole ++ '.' :: padded.drop (padded.length - places)

end Decimal

/-- The text of the number that a bit pattern stands for. -/
def Binary.text (f : BinaryFormat) (bits : Nat) : String :=
  let sign := if isNegative f bits then "-" else ""
  match ofBits f bits with
  | undefined => "NaN"
  | infinite => sign ++ "inf"
  | finite 0 _ => sign ++ "0"
  | finite m q =>
    let (n, j) := Decimal.shortest f m q
    sign ++ String.ofList (Decimal.positional n j)

/-- The text of a 32-bit floating-point number. -/
def textOfSingle (x : Float32) : String := Binary.text .single x.toBits.toNat

/-- The text of a 64-bit floating-point number. -/
def textOfDouble (x : Float) : String := Binary.text .double x.toBits.toNat

end CrossEntropy
