import CrossEntropy.Label
import CrossEntropy.Scalar
import CrossEntropy.Split

/-!
# Reference formulas

Softmax and cross-entropy as formulas over explicit indices, in any one precision, so that the
operations can be held against something too simple to be wrong.

* `Reference.probability`: softmax of one distribution at one class;
* `Reference.softmaxRows`, `Reference.softmaxAxis`: softmax of matrices and of tensors;
* `Reference.labelLoss`, `Reference.distributionLoss`, `Reference.pixelLoss`: average losses;
* `Reference.softmaxCrossEntropy`, `Reference.softLabelCrossEntropy`,
  `Reference.spatialSoftmaxCrossEntropy`: both, for tensors that fit together.
-/

namespace CrossEntropy.Reference

open Scalar

variable {A : Type} [Scalar A]

/-! ## Formulas -/

section Formulas

variable {n d h w : Nat}

/-- The greatest entry. Where there is no bottom to start from, the first entry is the start. -/
@[specialize] def greatest (x : Fin d → A) : A :=
  Fin.foldl d (fun best j => larger best (x j))
    (bottom?.getD (if hd : 0 < d then x ⟨0, hd⟩ else 0))

/-- `exp (x_j - max x) / Σ_k exp (x_k - max x)`. -/
@[specialize] def probability (x : Fin d → A) (j : Fin d) : A :=
  let best := greatest x
  exp (x j - best) / Fin.foldl d (fun norm k => norm + exp (x k - best)) 0

/-- The logarithm of a probability, floored. -/
@[specialize] def logarithm (p : A) : A := ln (larger p logFloor)

/-- The number of rows, counted one by one. -/
@[specialize] def rowCount (n : Nat) : A := Fin.foldl n (fun count _ => count + 1) 0

/-- The average over rows of `-ln p_i` at the row's class. -/
@[specialize] def labelLoss (x : Fin n → Fin d → A) (label : Fin n → Fin d) : A :=
  Fin.foldl n (fun loss i => loss - logarithm (probability (x i) (label i))) 0 / rowCount n

/-- The average over rows of `-Σ_j t_ij * ln p_ij`. -/
@[specialize] def distributionLoss (x t : Fin n → Fin d → A) : A :=
  Fin.foldl n (fun loss i =>
    Fin.foldl d (fun loss j => loss - t i j * logarithm (probability (x i) j)) loss) 0 / rowCount n

/-- Folds over the pixels of images, rows of the batch first. -/
@[specialize] def foldPixels {β : Type} (f : β → Fin n → Fin h → Fin w → β) (start : β) : β :=
  Fin.foldl n (fun a i => Fin.foldl h (fun a y => Fin.foldl w (fun a v => f a i y v) a) a) start

/-- The average of `-ln p` over the pixels that have a class, weighted. Without any such pixel
it is the undefined `0 / 0`. -/
@[specialize] def pixelLoss (x : Fin n → Fin d → Fin h → Fin w → A)
    (mark : Fin n → Fin h → Fin w → Option (Fin d)) (weight : Fin n → Fin h → Fin w → A) : A :=
  let loss := foldPixels (fun loss i y v =>
    match mark i y v with
    | none => loss
    | some c => loss - logarithm (probability (fun k => x i k y v) c) * weight i y v) 0
  let mass := foldPixels (fun mass i y v =>
    match mark i y v with
    | none => mass
    | some _ => mass + weight i y v) 0
  loss / mass

end Formulas

/-! ## Tensors by index -/

section Index

variable {α : Type} {n d h w : Nat}

theorem row_lt {n d i j : Nat} (hi : i < n) (hj : j < d) : i * d + j < n * d :=
  calc i * d + j < i * d + d := by omega
    _ = (i + 1) * d := by rw [Nat.add_mul, Nat.one_mul]
    _ ≤ n * d := Nat.mul_le_mul_right _ hi

theorem pixel_lt {n h w i y v : Nat} (hi : i < n) (hy : y < h) (hv : v < w) :
    (i * h + y) * w + v < n * (h * w) :=
  Nat.lt_of_lt_of_eq (row_lt (row_lt hi hy) hv) (Nat.mul_assoc ..)

/-- The entry of a vector at a row. -/
def byRow (x : Vector α (Shape.size [n])) (i : Fin n) : α :=
  x.get ⟨i, by simp⟩

/-- The entry of a matrix at a row and a class. -/
def byClass (x : Vector α (Shape.size [n, d])) (i : Fin n) (j : Fin d) : α :=
  x.get ⟨i * d + j, by simpa using row_lt i.isLt j.isLt⟩

/-- The entry of images of one channel at a pixel. -/
def byPixel (x : Vector α (Shape.size [n, h, w])) (i : Fin n) (y : Fin h) (v : Fin w) : α :=
  x.get ⟨(i * h + y) * w + v, by simpa using pixel_lt i.isLt y.isLt v.isLt⟩

/-- The entry of images at a pixel and a class. -/
def byChannel (x : Vector α (Shape.size [n, d, h, w])) (i : Fin n) (c : Fin d) (y : Fin h)
    (v : Fin w) : α :=
  x.get ⟨((i * d + c) * h + y) * w + v, by
    simpa [Nat.mul_assoc] using pixel_lt (row_lt i.isLt c.isLt) y.isLt v.isLt⟩

end Index

/-! ## Tensors -/

/-- The class probabilities of every row. -/
@[specialize] def softmaxMatrix {n d : Nat} (x : Fin n → Fin d → A) :
    Vector A (Shape.size [n, d]) :=
  Vector.ofFn fun k =>
    have hk : k < n * d := Nat.lt_of_lt_of_eq k.isLt (by simp)
    have hd : 0 < d := Nat.pos_of_ne_zero fun hd => by simp [hd] at hk
    probability (x ⟨k / d, Nat.div_lt_of_lt_mul (by rwa [Nat.mul_comm])⟩) ⟨k % d, Nat.mod_lt _ hd⟩

/-- Softmax of the rows of a matrix. -/
@[specialize] def softmaxRows : Tensor A → Except ShapeError (Tensor A)
  | ⟨[n, d], x⟩ => .ok ⟨[n, d], softmaxMatrix (byClass x)⟩
  | x => .error (.wrongRank 2 x.shape)

/-- Softmax over everything from `axis` on, for each index before it. -/
@[specialize] def softmaxAxis (axis : Nat) (scores : Tensor A) :
    Except ShapeError (Tensor A) :=
  match h : flattenedDimensions scores.shape axis with
  | .error e => .error e
  | .ok (n, d) =>
    have hnd : Shape.size [n, d] = scores.size := by
      unfold flattenedDimensions at h
      split at h <;> try split at h
      all_goals cases h
      simpa using Shape.size_take_mul_drop scores.shape axis
    let rows : Vector A (Shape.size [n, d]) := scores.entries.cast hnd.symm
    .ok ⟨scores.shape, (softmaxMatrix (byClass rows)).cast hnd⟩

/-- Softmax of rows and the average of `-ln p` at each row's label. -/
@[specialize] def softmaxCrossEntropy :
    Tensor A → Tensor Int32 → Except ShapeError (Tensor A × A)
  | ⟨[n, d], x⟩, labels => do
    let entries ← labels.expectShape "labels" [n]
    let classes ← readLabels d (classOf? d) ⟨[n], entries⟩
    return (⟨[n, d], softmaxMatrix (byClass x)⟩, labelLoss (byClass x) (byRow classes))
  | x, _ => .error (.wrongRank 2 x.shape)

/-- Softmax of rows and the average cross-entropy against each row's target distribution. -/
@[specialize] def softLabelCrossEntropy :
    Tensor A → Tensor A → Except ShapeError (Tensor A × A)
  | ⟨[n, d], x⟩, targets => do
    let entries ← targets.expectShape "targets" [n, d]
    return (⟨[n, d], softmaxMatrix (byClass x)⟩, distributionLoss (byClass x) (byClass entries))
  | x, _ => .error (.wrongRank 2 x.shape)

/-- The class probabilities of every pixel. -/
@[specialize] def softmaxImages {n d h w : Nat} (x : Fin n → Fin d → Fin h → Fin w → A) :
    Vector A (Shape.size [n, d, h, w]) :=
  Vector.ofFn fun k =>
    have hk : k < n * (d * (h * w)) := Nat.lt_of_lt_of_eq k.isLt (by simp)
    have hw : 0 < w := Nat.pos_of_ne_zero fun hw => by simp [hw] at hk
    have hh : 0 < h := Nat.pos_of_ne_zero fun hh => by simp [hh] at hk
    have hd : 0 < d := Nat.pos_of_ne_zero fun hd => by simp [hd] at hk
    have hn : k / w / h / d < n := by
      rw [Nat.div_div_eq_div_mul, Nat.div_div_eq_div_mul]
      apply Nat.div_lt_of_lt_mul
      rw [Nat.mul_comm]
      simpa [Nat.mul_comm, Nat.mul_left_comm, Nat.mul_assoc] using hk
    probability
      (fun c => x ⟨k / w / h / d, hn⟩ c ⟨k / w % h, Nat.mod_lt _ hh⟩ ⟨k % w, Nat.mod_lt _ hw⟩)
      ⟨k / w / h % d, Nat.mod_lt _ hd⟩

/-- The weight of every pixel, one where no weights are given. -/
@[specialize] def expectPixelWeights (n h w : Nat) :
    Option (Tensor A) → Except ShapeError (Fin n → Fin h → Fin w → A)
  | none => return fun _ _ _ => 1
  | some weights => return byPixel (← weights.expectShape "weights" [n, h, w])

/-- Softmax of pixels and the weighted average of `-ln p` over those that are not ignored. -/
@[specialize] def spatialSoftmaxCrossEntropy :
    Tensor A → Tensor Int32 → Option (Tensor A) → Except ShapeError (Tensor A × A)
  | ⟨[n, d, h, w], x⟩, labels, weights => do
    let entries ← labels.expectShape "labels" [n, h, w]
    let weight ← expectPixelWeights n h w weights
    if d = 0 then throw (.noClasses [n, d, h, w])
    let marks ← readLabels d (markOf? d) ⟨[n, h, w], entries⟩
    return (⟨[n, d, h, w], softmaxImages (byChannel x)⟩,
      pixelLoss (byChannel x) (byPixel marks) weight)
  | x, _, _ => .error (.wrongRank 4 x.shape)

end CrossEntropy.Reference
