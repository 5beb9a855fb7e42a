import Mathlib
import CrossEntropy.Scalar

/-!
# Undefined and infinite numbers

What becomes of undefined and infinite numbers that enter a computation: nothing compares with what
is undefined, nothing finite equals what is infinite, and neither is lost in a sum.

* `IsFinite`: numbers that are neither undefined nor infinite;
* `PropagatingScalar`: these laws, which binary floating point has;
* `isFinite_of_foldl`: a sum is finite only if everything in it is;
* `isFinite_of_relativelyClose`: what is close to a finite number is finite, whatever the
  tolerances;
* `Single`: single precision by the kind of its numbers, and its laws.
-/

namespace CrossEntropy

open Scalar

section Propagation

variable {α : Type} [Scalar α]

/-- A number that is neither undefined nor infinite. -/
def IsFinite (a : α) : Prop := isNaN a = false ∧ isInfinite a = false

/-- Undefined numbers compare with nothing and stay undefined, infinite ones equal nothing finite,
and neither kind of addend makes a finite sum. -/
class PropagatingScalar (α : Type) [Scalar α] : Prop where
  eq_of_isNaN {a b : α} : isNaN a = true → eq a b = false
  le_of_isNaN {a b : α} : isNaN a = true → le a b = false
  isNaN_sub {a b : α} : isNaN a = true → isNaN (a - b) = true
  isNaN_abs {a : α} : isNaN a = true → isNaN (abs a) = true
  eq_of_isInfinite {a b : α} : isInfinite a = true → isInfinite b = false → eq a b = false
  isInfinite_one : isInfinite (1 : α) = false
  isFinite_of_add {a b : α} : IsFinite (a + b) → IsFinite a ∧ IsFinite b

variable [PropagatingScalar α]

theorem isFinite_of_foldl {entries : List α} {start : α}
    (h : IsFinite (entries.foldl (· + ·) start)) : IsFinite start ∧ ∀ x ∈ entries, IsFinite x := by
  induction entries generalizing start with
  | nil => exact ⟨h, fun _ hx => (nomatch hx)⟩
  | cons x entries ih =>
    obtain ⟨hsum, hentries⟩ := ih h
    obtain ⟨hstart, hx⟩ := PropagatingScalar.isFinite_of_add hsum
    exact ⟨hstart, List.forall_mem_cons.mpr ⟨hx, hentries⟩⟩

theorem isFinite_of_relativelyClose {a b absolute relative : α} (hb : isInfinite b = false)
    (h : relativelyClose a b absolute relative = true) : IsFinite a := by
  unfold relativelyClose at h
  constructor
  · by_contra hnan
    rw [Bool.not_eq_false] at hnan
    have heq : eq a b = false := PropagatingScalar.eq_of_isNaN hnan
    have hle (c : α) : le (abs (a - b)) c = false :=
      PropagatingScalar.le_of_isNaN (PropagatingScalar.isNaN_abs (PropagatingScalar.isNaN_sub hnan))
    simp [heq, hle] at h
  · by_contra hinfinite
    rw [Bool.not_eq_false] at hinfinite
    have heq : eq a b = false := PropagatingScalar.eq_of_isInfinite hinfinite hb
    simp [heq, hinfinite] at h

end Propagation

/-! ## Single precision -/

namespace Single

open Float.Model

/-- What a number is: undefined, infinite, zero or finite with a mantissa and an exponent. -/
def kind (a : Float32) : UnpackedFloat := a.toModel.unpack

/-- The kinds without a finite value. -/
def Special (x : UnpackedFloat) : Prop := x = .notANumber ∨ ∃ sign, x = .infinity sign

theorem le_eq (a b : Float32) : le a b = (kind a).le (kind b) := by
  show decide (decide ((kind a).le (kind b) = true) = true) = _
  rw [Bool.decide_eq_true, Bool.decide_eq_true]

theorem isNaN_iff {a : Float32} : isNaN a = true ↔ kind a = .notANumber :=
  UnpackedFloat.isNaN_iff

theorem isInfinite_iff {a : Float32} : isInfinite a = true ↔ ∃ sign, kind a = .infinity sign := by
  show (kind a).isInf = true ↔ _
  cases kind a <;> simp [UnpackedFloat.isInf]

theorem isFinite_iff {a : Float32} : IsFinite a ↔ ¬ Special (kind a) := by
  rw [IsFinite, Special, ← isNaN_iff, ← isInfinite_iff]
  simp

theorem unpack_pack {x : UnpackedFloat} (h : Special x) :
    UnpackedFloat.unpack .binary32 (UnpackedFloat.pack .binary32 x) = x := by
  obtain rfl | ⟨sign, rfl⟩ := h
  · rfl
  · cases sign <;> rfl

theorem special_add_infinity (sign sign' : UnpackedFloat.Sign) :
    Special (UnpackedFloat.add .binary32 (.infinity sign) (.infinity sign')) := by
  unfold UnpackedFloat.add
  dsimp only
  split
  · exact .inr ⟨sign, rfl⟩
  · exact .inl rfl

theorem special_add {x y : UnpackedFloat} (h : Special x ∨ Special y) :
    Special (UnpackedFloat.add .binary32 x y) := by
  obtain (rfl | ⟨sign, rfl⟩) | (rfl | ⟨sign, rfl⟩) := h
  · exact .inl rfl
  · cases y with
    | notANumber => exact .inl rfl
    | infinity sign' => exact special_add_infinity sign sign'
    | zero | finite => exact .inr ⟨sign, rfl⟩
  · cases x <;> exact .inl rfl
  · cases x with
    | notANumber => exact .inl rfl
    | infinity sign' => exact special_add_infinity sign' sign
    | zero | finite => exact .inr ⟨sign, rfl⟩

theorem isFinite_of_add {a b : Float32} (h : IsFinite (a + b)) : IsFinite a ∧ IsFinite b := by
  rw [isFinite_iff, isFinite_iff, ← not_or]
  intro hspecial
  have hsum : Special (UnpackedFloat.add .binary32 (kind a) (kind b)) := special_add hspecial
  have hkind : kind (a + b) = UnpackedFloat.add .binary32 (kind a) (kind b) := unpack_pack hsum
  exact isFinite_iff.mp h (hkind ▸ hsum)

instance : PropagatingScalar Float32 where
  eq_of_isNaN {a b} h := by
    show (kind a).beq (kind b) = false
    rw [isNaN_iff.mp h]
    rfl
  le_of_isNaN {a b} h := by
    rw [le_eq, isNaN_iff.mp h]
    rfl
  isNaN_sub {a b} h := by
    have hkind : UnpackedFloat.sub .binary32 (kind a) (kind b) = .notANumber := by
      rw [isNaN_iff.mp h]
      rfl
    exact isNaN_iff.mpr ((unpack_pack (.inl hkind)).trans hkind)
  isNaN_abs {a} h := by
    have hkind : (kind a).abs = .notANumber := by
      rw [isNaN_iff.mp h]
      rfl
    exact isNaN_iff.mpr ((unpack_pack (.inl hkind)).trans hkind)
  eq_of_isInfinite {a b} ha hb := by
    obtain ⟨sign, hkind⟩ := isInfinite_iff.mp ha
    have hfinite : ∀ sign', kind b ≠ .infinity sign' := fun sign' h =>
      Bool.false_ne_true (hb.symm.trans (isInfinite_iff.mpr ⟨sign', h⟩))
    show (kind a).beq (kind b) = false
    rw [hkind]
    cases hkind' : kind b with
    | infinity sign' => exact absurd hkind' (hfinite sign')
    | notANumber => rfl
    | zero | finite => cases sign <;> rfl
  isInfinite_one := rfl
  isFinite_of_add := isFinite_of_add

end Single

end CrossEntropy
