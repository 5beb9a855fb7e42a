import Mathlib
import CrossEntropy.Scalar

/-!
# Numbers with infinities

Rational arithmetic with both infinities and an undefined number, which compute as they do in
binary floating point: nothing compares with what is undefined, and a difference of equal
infinities, a product of zero and infinity and a quotient of two infinities or of two zeros are
undefined. Laws that are to hold of floating point can be tried on it.

* `Extended`: the numbers, with their arithmetic;
* `Extended.undefined_le`, `Extended.finite_le_finite`: comparisons, one lemma per kind of number;
* `Extended.lt_finite`, `Extended.eq_finite`: the other comparisons of numbers that are finite;
* `Extended.le_trans`, `Extended.finite_le_iff`: the order, and the numbers above a given one;
* `Extended.le_add`, `Extended.add_le_add`, `Extended.mul_le_mul`, `Extended.div_le_div`: what keeps
  the order.
-/

namespace CrossEntropy

/-- A rational number, an infinity, or the undefined value. -/
inductive Extended
  | undefined
  | infinite (negative : Bool)
  | finite (q : ℚ)
  deriving DecidableEq

namespace Extended

/-- The number of the opposite sign. -/
def neg : Extended → Extended
  | undefined => undefined
  | infinite negative => infinite (!negative)
  | finite q => finite (-q)

/-- Addition; opposite infinities have no sum. -/
def add : Extended → Extended → Extended
  | finite p, finite q => finite (p + q)
  | infinite s, finite _ | finite _, infinite s => infinite s
  | infinite s, infinite t => if s = t then infinite s else undefined
  | _, _ => undefined

/-- Multiplication; zero and an infinity have no product. -/
def mul : Extended → Extended → Extended
  | finite p, finite q => finite (p * q)
  | infinite s, finite q | finite q, infinite s =>
    if q = 0 then undefined else infinite (s != decide (q < 0))
  | infinite s, infinite t => infinite (s != t)
  | _, _ => undefined

/-- Division; by zero it gives an infinity, but for the undefined `0 / 0`. -/
def div : Extended → Extended → Extended
  | finite p, finite q =>
    if q ≠ 0 then finite (p / q) else if p = 0 then undefined else infinite (p < 0)
  | infinite s, finite q => infinite (s != decide (q < 0))
  | finite _, infinite _ => finite 0
  | _, _ => undefined

/-- The order, in which the undefined value is not comparable. -/
def le : Extended → Extended → Bool
  | undefined, _ | _, undefined => false
  | infinite true, _ | _, infinite false => true
  | finite p, finite q => p ≤ q
  | _, _ => false

/-- The strict order. -/
def lt (x y : Extended) : Bool := le x y && !le y x

/-- Whether a value is the undefined one. -/
def isNaN : Extended → Bool
  | undefined => true
  | _ => false

instance : Scalar Extended where
  zero := finite 0
  one := finite 1
  add := add
  sub x y := add x (neg y)
  mul := mul
  div := div
  neg := neg
  ofNat n := finite n
  exp
    | infinite true => finite 0
    | finite q => finite (1 + q * q)
    | x => x
  ln
    | finite q => finite (q - 1)
    | x => x
  abs
    | infinite _ => infinite false
    | finite q => finite |q|
    | undefined => undefined
  larger x y := if isNaN x then y else if isNaN y then x else if lt x y then y else x
  bottom? := some (infinite true)
  eq x y := le x y && le y x
  lt := lt
  le := le
  isNaN := isNaN
  isInfinite
    | infinite _ => true
    | _ => false
  logFloor := finite (1 / 100)

instance : Precision Extended Extended := ⟨id, id⟩

/-! ## Order -/

section Order

variable {p q : ℚ} {s t : Bool} {x y z : Extended}

@[simp] theorem undefined_le : le undefined x = false := by
  cases x <;> rfl

@[simp] theorem le_undefined : le x undefined = false := by
  rcases x with _ | ⟨_ | _⟩ | _ <;> rfl

@[simp] theorem infinite_le_infinite : le (infinite s) (infinite t) = (s || !t) := by
  cases s <;> cases t <;> rfl

@[simp] theorem infinite_le_finite : le (infinite s) (finite q) = s := by
  cases s <;> rfl

@[simp] theorem finite_le_infinite : le (finite p) (infinite t) = !t := by
  cases t <;> rfl

@[simp] theorem finite_le_finite : le (finite p) (finite q) = decide (p ≤ q) := rfl

theorem lt_finite : lt (finite p) (finite q) = decide (p < q) := by
  by_cases h : p < q
  · simp [lt, h, h.le]
  · simp [lt, h, not_lt.mp h]

theorem eq_finite : Scalar.eq (finite p) (finite q) = decide (p = q) := by
  simp [Scalar.eq, ← Bool.decide_and, le_antisymm_iff]

theorem le_trans (hxy : le x y = true) (hyz : le y z = true) : le x z = true := by
  rcases x with _ | s | p <;> rcases y with _ | t | q <;> rcases z with _ | u | r
  case infinite.infinite.infinite => cases t <;> simp_all
  case finite.finite.finite =>
    exact decide_eq_true ((of_decide_eq_true hxy).trans (of_decide_eq_true hyz))
  all_goals simp_all

theorem le_of_lt (h : lt x y = true) : le x y = true :=
  (Bool.and_eq_true_iff.mp h).1

theorem lt_of_lt_of_le (hxy : lt x y = true) (hyz : le y z = true) : lt x z = true := by
  rw [lt, Bool.and_eq_true, Bool.not_eq_true', Bool.eq_false_iff] at hxy ⊢
  exact ⟨le_trans hxy.1 hyz, fun hzx => hxy.2 (le_trans hyz hzx)⟩

theorem finite_le_iff :
    le (finite p) x = true ↔ x = infinite false ∨ ∃ q, p ≤ q ∧ x = finite q := by
  cases x <;> simp

theorem le_finite_iff :
    le x (finite q) = true ↔ x = infinite true ∨ ∃ p, p ≤ q ∧ x = finite p := by
  cases x <;> simp

theorem infinite_le_iff : le (infinite false) x = true ↔ x = infinite false := by
  cases x <;> simp

end Order

/-! ## Arithmetic -/

theorem le_add {a b : Extended} (ha : le (finite 0) a = true) (hb : le (finite 0) b = true) :
    le b (add a b) = true := by
  rcases a with _ | ⟨_ | _⟩ | p <;> rcases b with _ | ⟨_ | _⟩ | q <;> simp_all [add]

theorem add_le_add {a b c d : Extended} (ha : le (finite 0) a = true) (hab : le a b = true)
    (hc : le (finite 0) c = true) (hcd : le c d = true) : le (add a c) (add b d) = true := by
  rcases a with _ | ⟨_ | _⟩ | a <;> rcases b with _ | ⟨_ | _⟩ | b <;>
    rcases c with _ | ⟨_ | _⟩ | c <;> rcases d with _ | ⟨_ | _⟩ | d <;> simp_all [add]
  linarith

theorem mul_le_mul {p : ℚ} (hp : 0 < p) {x y : Extended} (h : le x y = true) :
    le (mul (finite p) x) (mul (finite p) y) = true := by
  rcases x with _ | ⟨_ | _⟩ | q <;> rcases y with _ | ⟨_ | _⟩ | r <;>
    simp_all [mul, hp.ne', hp.not_gt]

theorem div_finite {p q : ℚ} (hq : 0 < q) : div (finite p) (finite q) = finite (p / q) := by
  simp [div, hq.ne']

theorem div_infinite {q : ℚ} (hq : 0 < q) : div (infinite false) (finite q) = infinite false := by
  simp [div, hq.not_gt]

theorem div_le_div {a b : Extended} {c d : ℚ} (ha : le (finite 0) a = true)
    (hab : le a b = true) (hc : 0 < c) (hcd : c ≤ d) :
    le (div a (finite d)) (div b (finite c)) = true := by
  have hd : 0 < d := hc.trans_le hcd
  obtain rfl | ⟨p, hp, rfl⟩ := finite_le_iff.mp ha
  · obtain rfl := infinite_le_iff.mp hab
    rw [div_infinite hc, div_infinite hd]
    rfl
  · rw [div_finite hd]
    obtain rfl | ⟨q, hpq, rfl⟩ := finite_le_iff.mp hab
    · rw [div_infinite hc]
      rfl
    · rw [div_finite hc]
      exact decide_eq_true (div_le_div₀ (hp.trans hpq) hpq hc hcd)

end Extended

end CrossEntropy
