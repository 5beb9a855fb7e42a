import CrossEntropy.Proofs.Fold
import CrossEntropy.Scalar

/-!
# Exact arithmetic

One field in which all numbers live, working precision and totals alike. Nothing is asked of `exp`,
`ln` and the comparisons, so that a statement holds for each choice of them.

* `ExactScalar`: a field as an arithmetic;
* `RingScalar`: a commutative ring as an arithmetic, where nothing is known of division either;
* `OrderedScalar`: one whose comparisons are those of an ordered field;
* `MaximumScalar`, `LawfulExp`, `LawfulLn`: laws of the maximum, of the exponential function and of
  the floored logarithm;
* `ExactScalar.ofOrderedField`: any ordered field is one, with any `exp`, `ln` and floor;
* `ExactScalar.rational`: one that computes;
* `ExactScalar.real`, `lawfulExp_real`, `lawfulLn_real`: real numbers with exponential function and
  natural logarithm.
-/

namespace CrossEntropy

/-- Arithmetic in a field. -/
class ExactScalar (F : Type) extends Field F, Scalar F where
  ofNat_eq_cast (n : Nat) : (Scalar.ofNat n : F) = n

/-- Arithmetic in a commutative ring. -/
class RingScalar (R : Type) extends CommRing R, Scalar R

instance (F : Type) [ExactScalar F] : RingScalar F := { ‹ExactScalar F› with }

/-- Nothing is lost between working precision and totals. -/
instance ExactScalar.toPrecision (F : Type) [ExactScalar F] : Precision F F := ⟨id, id⟩

/-- The comparisons are those of an ordered field. -/
class OrderedScalar (F : Type) [LinearOrder F] [ExactScalar F] : Prop extends
    IsStrictOrderedRing F where
  le_iff {a b : F} : Scalar.le a b = true ↔ a ≤ b
  lt_iff {a b : F} : Scalar.lt a b = true ↔ a < b

/-- The larger of two numbers is their maximum, and there is no number below all others. -/
class MaximumScalar (F : Type) [LinearOrder F] [ExactScalar F] : Prop extends
    IsStrictOrderedRing F where
  larger_eq_max (a b : F) : Scalar.larger a b = max a b
  bottom?_eq_none : (Scalar.bottom? : Option F) = none

/-- What softmax needs of an exponential function. -/
class LawfulExp (F : Type) [LinearOrder F] [ExactScalar F] : Prop where
  exp_pos (a : F) : 0 < Scalar.exp a
  exp_le_exp {a b : F} : a ≤ b → Scalar.exp a ≤ Scalar.exp b
  exp_zero : Scalar.exp (0 : F) = 1

/-- What a loss needs of a logarithm, and of the probability that none is floored below. -/
class LawfulLn (F : Type) [LinearOrder F] [ExactScalar F] : Prop where
  ln_le_ln {a b : F} : 0 < a → a ≤ b → Scalar.ln a ≤ Scalar.ln b
  ln_one : Scalar.ln (1 : F) = 0
  logFloor_pos : 0 < (Scalar.logFloor : F)
  logFloor_le_one : (Scalar.logFloor : F) ≤ 1

/-- Arithmetic in an ordered field, with given `exp`, `ln` and least probability. -/
@[reducible] def ExactScalar.ofOrderedField (F : Type) [Field F] [LinearOrder F]
    (exp ln : F → F) (floor : F) : ExactScalar F where
  toField := inferInstance
  ofNat n := n
  exp := exp
  ln := ln
  abs a := max a (-a)
  larger := max
  bottom? := none
  eq a b := a = b
  lt a b := a < b
  le a b := a ≤ b
  isNaN _ := false
  isInfinite _ := false
  logFloor := floor
  ofNat_eq_cast _ := rfl

theorem ExactScalar.orderedScalar (F : Type) [Field F] [LinearOrder F] [IsStrictOrderedRing F]
    (exp ln : F → F) (floor : F) :
    letI := ExactScalar.ofOrderedField F exp ln floor
    OrderedScalar F :=
  letI := ExactScalar.ofOrderedField F exp ln floor
  { le_iff := decide_eq_true_iff, lt_iff := decide_eq_true_iff }

theorem ExactScalar.maximumScalar (F : Type) [Field F] [LinearOrder F] [IsStrictOrderedRing F]
    (exp ln : F → F) (floor : F) :
    letI := ExactScalar.ofOrderedField F exp ln floor
    MaximumScalar F :=
  letI := ExactScalar.ofOrderedField F exp ln floor
  { larger_eq_max := fun _ _ => rfl, bottom?_eq_none := rfl }

/-- Rational arithmetic, with rational stand-ins for `exp` and `ln`. -/
@[reducible] def ExactScalar.rational : ExactScalar ℚ :=
  .ofOrderedField ℚ (fun x => 1 + x * x) (fun x => x - 1) (1 / 100)

/-- Real arithmetic, with the exponential function and the natural logarithm. -/
@[reducible] noncomputable def ExactScalar.real : ExactScalar ℝ :=
  .ofOrderedField ℝ Real.exp Real.log (1 / 100)

theorem lawfulExp_real :
    letI := ExactScalar.real
    LawfulExp ℝ :=
  letI := ExactScalar.real
  { exp_pos := Real.exp_pos, exp_le_exp := Real.exp_le_exp.mpr, exp_zero := Real.exp_zero }

theorem lawfulLn_real :
    letI := ExactScalar.real
    LawfulLn ℝ :=
  letI := ExactScalar.real
  { ln_le_ln := Real.log_le_log
    ln_one := Real.log_one
    logFloor_pos := show (0 : ℝ) < 1 / 100 by norm_num
    logFloor_le_one := show (1 / 100 : ℝ) ≤ 1 by norm_num }

end CrossEntropy
