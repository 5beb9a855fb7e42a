import Mathlib
import CrossEntropy.Reference

/-!
# Folds

Sums are kept as folds from the left: over a vector, over the numbers below a bound, over the
pixels of images. Here the first two kinds and the third are brought to one form.

* `foldl_eq`, `foldl_get`: a fold over a vector or a list is a fold over its places;
* **`foldl_mul`**: a fold over `n * m` places is one over `n` blocks of `m` places;
* `foldPixels_eq`: a fold over pixels is a fold over their row-major numbers;
* `foldl_add_eq_sum`: in a commutative monoid a fold of additions is a sum.
-/

namespace CrossEntropy

variable {α β γ : Type} {n m : Nat}

theorem get_zipWith (f : α → β → γ) (x : Vector α n) (y : Vector β n) (i : Fin n) :
    (Vector.zipWith f x y).get i = f (x.get i) (y.get i) :=
  Vector.getElem_zipWith i.isLt

theorem ext_get {x y : Vector α n} (h : ∀ i, x.get i = y.get i) : x = y :=
  Vector.ext fun i hi => h ⟨i, hi⟩

/-! ## Folds over places -/

theorem foldl_congr {f g : β → Fin n → β} (h : ∀ b i, f b i = g b i) (b : β) :
    Fin.foldl n f b = Fin.foldl n g b := by
  rw [show f = g from funext fun b => funext fun i => h b i]

theorem foldl_fixed (n : Nat) (b : β) : Fin.foldl n (fun b _ => b) b = b := by
  induction n with
  | zero => exact Fin.foldl_zero _ b
  | succ n ih => rw [Fin.foldl_succ, ih]

theorem foldl_eq (f : β → α → β) (b : β) (x : Vector α n) :
    x.foldl f b = Fin.foldl n (fun b i => f b (x.get i)) b := by
  have hx : x.toList = (List.finRange n).map x.get := by
    refine List.ext_getElem (by simp) fun i h₁ h₂ => ?_
    simp [Vector.get]
  rw [← Vector.foldl_toList, hx, List.foldl_map, Fin.foldl_eq_finRange_foldl]

theorem foldl_get (f : β → α → β) (xs : List α) (b : β) :
    Fin.foldl xs.length (fun b k => f b (xs.get k)) b = xs.foldl f b := by
  rw [Fin.foldl_eq_finRange_foldl]
  conv_rhs => rw [← List.map_get_finRange xs, List.foldl_map]

/-- **A fold over `n * m` places is a fold over `n` blocks of `m` places each.** -/
theorem foldl_mul (f : β → Fin (n * m) → β) (b : β) :
    Fin.foldl (n * m) f b =
      Fin.foldl n (fun b i => Fin.foldl m (fun b j =>
        f b ⟨i * m + j, Reference.row_lt i.isLt j.isLt⟩) b) b := by
  induction n with
  | zero =>
    rw [Fin.foldl_congr (Nat.zero_mul m), Fin.foldl_zero, Fin.foldl_zero]
  | succ n ih =>
    rw [Fin.foldl_congr (Nat.succ_mul n m), Fin.foldl_add, Fin.foldl_succ_last]
    exact congrArg (Fin.foldl m _) (ih _)

theorem foldPixels_eq {n h w : Nat} (f : β → Fin (n * (h * w)) → β) (b : β) :
    Fin.foldl (n * (h * w)) f b =
      Reference.foldPixels (fun b (i : Fin n) (y : Fin h) (v : Fin w) =>
        f b ⟨(i * h + y) * w + v, Reference.pixel_lt i.isLt y.isLt v.isLt⟩) b := by
  rw [foldl_mul]
  refine foldl_congr (fun b i => ?_) b
  rw [foldl_mul]
  refine foldl_congr (fun b y => foldl_congr (fun b v => ?_) b) b
  congr 2
  rw [Nat.add_mul, Nat.mul_assoc, Nat.add_assoc]

theorem foldl_add_eq_sum {M : Type} [AddCommMonoid M] (f : Fin n → M) (a : M) :
    Fin.foldl n (fun b i => b + f i) a = a + ∑ i, f i := by
  induction n with
  | zero => rw [Fin.foldl_zero, Fin.sum_univ_zero, add_zero]
  | succ n ih => rw [Fin.foldl_succ_last, ih, Fin.sum_univ_castSucc, add_assoc]

end CrossEntropy
