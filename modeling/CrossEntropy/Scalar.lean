/-!
# Scalars

What operators, references and checks ask of a number. No law is assumed: binary floating point
computes with these operations, an ordered field is where their laws are stated. Programs run with
two precisions, of which `Float32` is the working precision and `Float` the one that totals and
references use.

* `Scalar α`: arithmetic, `exp`, `ln`, comparisons and the least probability a logarithm sees;
* `Precision S D`: a working precision `S` and the wider `D` in which totals are kept;
* `relativelyClose`, `close`: agreement of two numbers up to a tolerance;
* `Scalar Float32`, `Scalar Float`, `Precision Float32 Float`: binary floating point;
* `larger32`, `larger64`: the larger operand, or the defined one of the two.
-/

namespace CrossEntropy

/-- The operations on numbers of one precision. -/
class Scalar (α : Type) extends Zero α, One α, Add α, Sub α, Mul α, Div α, Neg α where
  /-- A count as a number. -/
  ofNat : Nat → α
  exp : α → α
  ln : α → α
  /-- The distance from zero. -/
  abs : α → α
  /-- The larger of two numbers; if one of them is undefined, the other. -/
  larger : α → α → α
  /-- What is below all numbers, minus infinity where there is one. -/
  bottom? : Option α
  eq : α → α → Bool
  lt : α → α → Bool
  le : α → α → Bool
  isNaN : α → Bool
  isInfinite : α → Bool
  /-- Probabilities are floored here before a logarithm, so that one that underflowed costs a
  large but finite loss. -/
  logFloor : α

/-- Working precision `S`, with totals accumulated in `D`. -/
class Precision (S : Type) (D : outParam Type) where
  widen : S → D
  narrow : D → S

open Scalar

section Closeness

variable {α : Type} [Scalar α]

/-- Equal, or finite and no further apart than `absolute`, or no further apart than `relative`
times the larger magnitude. -/
@[specialize] def relativelyClose (a b absolute relative : α) : Bool :=
  if eq a b then true
  else if isInfinite a || isInfinite b then false
  else if le (abs (a - b)) absolute then true
  else
    let largest := if lt (abs a) (abs b) then abs b else abs a
    le (abs (a - b)) (largest * relative)

/-- Two results agree up to `threshold`; an undefined one agrees only with an undefined one. -/
@[specialize] def close (actual expected threshold : α) : Bool :=
  if isNaN actual || isNaN expected then isNaN actual && isNaN expected
  else relativelyClose actual expected threshold threshold

end Closeness

/-! ## Binary floating point -/

/-- The larger of `a` and `b`, or the other one if exactly one of them is undefined. -/
@[inline] def larger32 (a b : Float32) : Float32 :=
  if a.isNaN then b else if b.isNaN then a else if a < b then b else a

/-- The same for numbers of the wider precision. -/
@[inline] def larger64 (a b : Float) : Float :=
  if a.isNaN then b else if b.isNaN then a else if a < b then b else a

/-- The least probability whose logarithm is taken, in working precision. -/
def logFloor32 : Float32 := 1e-20

instance : Scalar Float32 where
  zero := 0.0
  one := 1.0
  ofNat n := Float32.ofNat n
  exp := Float32.exp
  ln := Float32.log
  abs := Float32.abs
  larger := larger32
  bottom? := some (.ofBits 0xff800000)
  eq a b := a == b
  lt a b := a < b
  le a b := a ≤ b
  isNaN := Float32.isNaN
  isInfinite := Float32.isInf
  logFloor := logFloor32

instance : Scalar Float where
  zero := 0.0
  one := 1.0
  ofNat n := Float.ofNat n
  exp := Float.exp
  ln := Float.log
  abs := Float.abs
  larger := larger64
  bottom? := some (.ofBits 0xfff0000000000000)
  eq a b := a == b
  lt a b := a < b
  le a b := a ≤ b
  isNaN := Float.isNaN
  isInfinite := Float.isInf
  logFloor := logFloor32.toFloat

instance : Precision Float32 Float where
  widen := Float32.toFloat
  narrow := Float.toFloat32

end CrossEntropy
