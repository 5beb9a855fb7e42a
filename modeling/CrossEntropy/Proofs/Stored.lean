import CrossEntropy.Proofs.Index

/-!
# Tensors in memory

A tensor may lie in memory in any order: every step along a dimension moves by that dimension's
stride, which may be negative or zero. Operations see the entries in row-major order of their
indices, whatever the strides.

* `Stored`, `Stored.tensor`: a tensor in memory, and its entries in order of their indices;
* `Stored.at?_tensor`: the entry at an index is the one at its place;
* `Stored.rowMajor`, `Stored.columnMajor`: the two contiguous layouts;
* **`Stored.tensor_rowMajor`, `Stored.tensor_columnMajor`**: both hold the tensor they are made of.
-/

namespace CrossEntropy

/-- The place in memory of a multi-index. -/
def placeOf : (offset : Int) → (strides : List Int) → (index : List Nat) → Int
  | offset, stride :: strides, i :: index => placeOf (offset + stride * i) strides index
  | offset, _, _ => offset

/-- A tensor in memory. -/
structure Stored (α : Type) where
  shape : Shape
  memory : Array α
  strides : List Int
  offset : Int
  /-- Every index has its place within the memory. -/
  inside : ∀ index, shape.Contains index →
    0 ≤ placeOf offset strides index ∧ placeOf offset strides index < memory.size

namespace Stored

variable {α : Type}

theorem place_lt (x : Stored α) {index : List Nat} (h : x.shape.Contains index) :
    (placeOf x.offset x.strides index).toNat < x.memory.size := by
  have := x.inside index h
  omega

/-- The tensor that is stored. -/
def tensor (x : Stored α) : Tensor α where
  shape := x.shape
  entries := Vector.ofFn fun k =>
    have hk := x.place_lt (Shape.contains_unravel k.isLt)
    x.memory[(placeOf x.offset x.strides (x.shape.unravel k)).toNat]

theorem at?_tensor (x : Stored α) {index : List Nat} (h : x.shape.Contains index) :
    x.tensor.at? index = x.memory[(placeOf x.offset x.strides index).toNat]? := by
  let k : Fin x.tensor.size := ⟨x.shape.ravel index, Shape.ravel_lt h⟩
  have hk : x.tensor.index k = index := Shape.unravel_ravel h
  have hplace : (placeOf x.offset x.strides (x.tensor.index k)).toNat < x.memory.size :=
    x.place_lt (Shape.contains_unravel k.isLt)
  have hentry : x.tensor.entries.get k =
      x.memory[(placeOf x.offset x.strides (x.tensor.index k)).toNat] :=
    Vector.getElem_ofFn k.isLt
  have hat := (x.tensor.at?_index k).trans (Array.getElem_eq_iff.mp hentry.symm).symm
  rwa [hk] at hat

/-- A tensor is what is stored if every index has its entry at its place. -/
theorem tensor_eq {x : Stored α} {y : Tensor α} (hshape : x.shape = y.shape)
    (h : ∀ index, y.shape.Contains index →
      x.memory[(placeOf x.offset x.strides index).toNat]? = y.at? index) : x.tensor = y := by
  refine Tensor.ext_at? hshape fun index hindex => ?_
  rw [x.at?_tensor (hshape ▸ hindex)]
  exact h index hindex

/-! ## Contiguous layouts -/

/-- Strides of the layout in which the last dimension varies fastest. -/
def rowStrides : Shape → List Int
  | [] => []
  | _ :: s => Shape.size s :: rowStrides s

/-- Strides of the layout in which the first dimension varies fastest, in steps of `unit`. -/
def columnStrides : (unit : Nat) → Shape → List Int
  | _, [] => []
  | unit, k :: s => unit :: columnStrides (unit * k) s

theorem placeOf_rowStrides {s : Shape} {index : List Nat} (h : s.Contains index) (offset : Int) :
    placeOf offset (rowStrides s) index = offset + s.ravel index := by
  induction s generalizing index offset with
  | nil => simp [placeOf, rowStrides, Shape.ravel]
  | cons k s ih =>
    cases index with
    | nil => exact h.elim
    | cons i index =>
      rw [rowStrides, placeOf, ih h.2, Shape.ravel]
      push_cast
      ring

theorem placeOf_columnStrides {s : Shape} {index : List Nat} (h : s.Contains index) (offset : Int)
    (unit : Nat) : placeOf offset (columnStrides unit s) index =
      offset + unit * Shape.ravel s.reverse index.reverse := by
  induction s generalizing index offset unit with
  | nil => simp [placeOf, columnStrides, Shape.ravel]
  | cons k s ih =>
    cases index with
    | nil => exact h.elim
    | cons i index =>
      have hlength : s.reverse.length = index.reverse.length := by
        rw [List.length_reverse, List.length_reverse, Shape.length_of_contains h.2]
      rw [columnStrides, placeOf, ih h.2, List.reverse_cons, List.reverse_cons,
        Shape.ravel_append hlength]
      simp only [Shape.ravel, Shape.size_cons, Shape.size_nil]
      push_cast
      ring

/-- A tensor with its entries in row-major order. -/
def rowMajor (x : Tensor α) : Stored α where
  shape := x.shape
  memory := x.entries.toArray
  strides := rowStrides x.shape
  offset := 0
  inside index h := by
    have := Shape.ravel_lt h
    rw [placeOf_rowStrides h, Vector.size_toArray]
    omega

/-- A tensor with its entries in column-major order. -/
def columnMajor (x : Tensor α) : Stored α where
  shape := x.shape
  memory := x.transpose.entries.toArray
  strides := columnStrides 1 x.shape
  offset := 0
  inside index h := by
    have := Shape.ravel_lt (Shape.contains_reverse h)
    have hshape : x.transpose.shape = x.shape.reverse := rfl
    rw [placeOf_columnStrides h, Vector.size_toArray, hshape]
    omega

/-- **Row-major memory holds the tensor.** -/
@[simp] theorem tensor_rowMajor (x : Tensor α) : (rowMajor x).tensor = x := by
  refine tensor_eq rfl fun index hi => ?_
  have hplace : placeOf 0 (rowStrides x.shape) index = x.shape.ravel index := by
    rw [placeOf_rowStrides hi, zero_add]
  simp only [rowMajor, hplace, Int.toNat_natCast]
  exact Vector.getElem?_toArray ..

/-- **Column-major memory holds the tensor.** -/
@[simp] theorem tensor_columnMajor (x : Tensor α) : (columnMajor x).tensor = x := by
  refine tensor_eq rfl fun index hi => ?_
  have hplace : placeOf 0 (columnStrides 1 x.shape) index =
      Shape.ravel x.shape.reverse index.reverse := by
    rw [placeOf_columnStrides hi, zero_add, Nat.cast_one, one_mul]
  rw [← x.at?_transpose hi]
  simp only [columnMajor, hplace, Int.toNat_natCast]
  exact Vector.getElem?_toArray ..

end Stored

end CrossEntropy
