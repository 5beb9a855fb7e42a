import CrossEntropy.Proofs.Probabilities
import CrossEntropy.Proofs.Stored

/-!
# Flattening

A tensor cut at an axis becomes a matrix: the index before the axis numbers the row, the index
from the axis on the column, both in row-major order. Whatever the layout in memory, the matrix is
the same, and it gives the tensor back.

* `Shape.rowColumn`, **`Shape.bijOn_rowColumn`**: indices and places of the matrix correspond one
  to one;
* `Split.exists_rows_eq_ok_iff`, `Split.rows_eq_error_iff`: which tensors have rows, and why the
  others have none;
* `Split.getElem?_lanes`, `Split.toArray_flatten_lanes`: the entries of the matrix, and all of them
  row after row;
* `Stored.FlattenedTo`, `Stored.flattenedTo_lanes`: the matrix that holds a tensor in memory;
* **`Stored.rows_tensor`**: when there is one, and that it gives the tensor back.
-/

namespace CrossEntropy

namespace Shape

theorem size_eq_prod (s : Shape) : size s = s.prod := by
  induction s with
  | nil => rfl
  | cons k s ih => rw [size_cons, List.prod_cons, ih]

theorem size_eq_zero_iff (s : Shape) : size s = 0 ↔ 0 ∈ s := by
  rw [size_eq_prod, List.prod_eq_zero_iff]

theorem contains_take {s : Shape} {index : List Nat} (h : Contains s index) (axis : Nat) :
    Contains (s.take axis) (index.take axis) := by
  induction axis generalizing s index with
  | zero => trivial
  | succ axis ih =>
    cases s <;> cases index
    case nil.nil => trivial
    case cons.cons => exact ⟨h.1, ih h.2⟩
    all_goals exact h.elim

theorem contains_drop {s : Shape} {index : List Nat} (h : Contains s index) (axis : Nat) :
    Contains (s.drop axis) (index.drop axis) := by
  induction axis generalizing s index with
  | zero => exact h
  | succ axis ih =>
    cases s <;> cases index
    case nil.nil => trivial
    case cons.cons => exact ih h.2
    all_goals exact h.elim

/-- The row and the column of an index, if everything from `axis` on is one class index. -/
def rowColumn (s : Shape) (axis : Nat) (index : List Nat) : Nat × Nat :=
  (ravel (s.take axis) (index.take axis), ravel (s.drop axis) (index.drop axis))

/-- The index with a given row and column. -/
def ofRowColumn (s : Shape) (axis : Nat) (place : Nat × Nat) : List Nat :=
  unravel (s.take axis) place.1 ++ unravel (s.drop axis) place.2

/-- The entries of a row follow each other, and so do the rows. -/
theorem ravel_eq_rowColumn {s : Shape} {index : List Nat} (h : Contains s index) (axis : Nat) :
    ravel s index =
      (s.rowColumn axis index).1 * size (s.drop axis) + (s.rowColumn axis index).2 := by
  have hlength := length_of_contains (contains_take h axis)
  have happend := ravel_append hlength (s.drop axis) (index.drop axis)
  rwa [List.take_append_drop, List.take_append_drop] at happend

theorem ofRowColumn_rowColumn {s : Shape} {index : List Nat} (h : Contains s index) (axis : Nat) :
    s.ofRowColumn axis (s.rowColumn axis index) = index := by
  rw [rowColumn, ofRowColumn, unravel_ravel (contains_take h axis),
    unravel_ravel (contains_drop h axis), List.take_append_drop]

theorem rowColumn_ofRowColumn {s : Shape} {axis : Nat} (haxis : axis ≤ s.length)
    {place : Nat × Nat} (hrow : place.1 < size (s.take axis))
    (hcolumn : place.2 < size (s.drop axis)) :
    s.rowColumn axis (s.ofRowColumn axis place) = place := by
  have hlength : (unravel (s.take axis) place.1).length = axis := by
    rw [length_unravel, List.length_take_of_le haxis]
  rw [rowColumn, ofRowColumn, List.take_left' hlength, List.drop_left' hlength,
    ravel_unravel hrow, ravel_unravel hcolumn]

theorem contains_ofRowColumn {s : Shape} {axis : Nat} {place : Nat × Nat}
    (hrow : place.1 < size (s.take axis)) (hcolumn : place.2 < size (s.drop axis)) :
    Contains s (s.ofRowColumn axis place) := by
  have h := contains_append (contains_unravel hrow) (contains_unravel hcolumn)
  rwa [List.take_append_drop] at h

/-- **Indices and places of the matrix correspond one to one.** -/
theorem bijOn_rowColumn {s : Shape} {axis : Nat} (haxis : axis ≤ s.length) :
    Set.BijOn (s.rowColumn axis) {index | s.Contains index}
      (Set.Iio (size (s.take axis)) ×ˢ Set.Iio (size (s.drop axis))) := by
  have hinverse : Set.InvOn (s.ofRowColumn axis) (s.rowColumn axis) {index | s.Contains index}
      (Set.Iio (size (s.take axis)) ×ˢ Set.Iio (size (s.drop axis))) := by
    constructor
    · intro index h
      exact ofRowColumn_rowColumn h axis
    · rintro place ⟨hrow, hcolumn⟩
      exact rowColumn_ofRowColumn haxis hrow hcolumn
  refine hinverse.bijOn ?_ ?_
  · intro index h
    exact ⟨ravel_lt (contains_take h axis), ravel_lt (contains_drop h axis)⟩
  · rintro place ⟨hrow, hcolumn⟩
    exact contains_ofRowColumn hrow hcolumn

end Shape

namespace Split

variable {α : Type} {size : Nat}

theorem exists_rows_eq_ok_iff {shape : Shape} {axis : Nat} :
    (∃ s, rows shape axis = .ok s) ↔ axis ≤ shape.length ∧ 0 ∉ shape.drop axis := by
  simp only [rows_eq_ok_iff, ne_eq, Shape.size_eq_zero_iff, exists_and_left, exists_eq',
    and_true]

/-- **Why a shape has no rows**: it has no such axis, or else no classes from it on. -/
theorem rows_eq_error_iff {shape : Shape} {axis : Nat} {e : ShapeError} :
    rows shape axis = .error e ↔
      shape.length < axis ∧ e = .axisOutOfRange axis shape.length ∨
      axis ≤ shape.length ∧ 0 ∈ shape.drop axis ∧ e = .noClasses shape := by
  by_cases haxis : shape.length < axis
  · have hrows : rows shape axis = .error (.axisOutOfRange axis shape.length) := by
      rw [rows, flattenedDimensions, if_pos haxis]
      rfl
    simp [hrows, haxis, Nat.not_le_of_lt haxis, eq_comm]
  · have hle := Nat.le_of_not_lt haxis
    by_cases hzero : 0 ∈ shape.drop axis
    · have hrows : rows shape axis = .error (.noClasses shape) := by
        rw [rows, flattenedDimensions, if_neg haxis, if_pos ((Shape.size_eq_zero_iff _).mpr hzero)]
        rfl
      simp [hrows, haxis, hle, hzero, eq_comm]
    · obtain ⟨s, hrows⟩ := exists_rows_eq_ok_iff.mpr ⟨hle, hzero⟩
      simp [hrows, haxis, hzero]

theorem count_mul_classes (s : Split size) : s.count * s.classes = size := by
  refine Eq.trans ?_ s.size_eq.symm
  rw [count, Nat.mul_assoc, Nat.mul_comm s.inner]

variable {s : Split size} (hinner : s.inner = 1)
include hinner

theorem getElem?_lanes (x : Vector α size) {row column : Nat} (hrow : row < s.count)
    (hcolumn : column < s.classes) :
    ((s.lanes x)[row]?.bind fun lane => lane[column]?) = x[row * s.classes + column]? := by
  have hentry := s.entry_of_rows hinner ⟨row, hrow⟩ ⟨column, hcolumn⟩
  have hget := s.get_lanes x ⟨row, hrow⟩ ⟨column, hcolumn⟩
  rw [Vector.getElem?_eq_getElem hrow, Option.bind_some, Vector.getElem?_eq_getElem hcolumn]
  refine (congrArg some hget).trans ?_
  rw [← hentry]
  exact (Vector.getElem?_eq_getElem (s.entry ⟨row, hrow⟩ ⟨column, hcolumn⟩).isLt).symm

/-- Rows one after the other are all entries in their order. -/
theorem toArray_flatten_lanes (x : Vector α size) : (s.lanes x).flatten.toArray = x.toArray := by
  have hsize := s.count_mul_classes
  refine Array.ext (by simp [hsize]) fun k hk _ => ?_
  rw [Vector.size_toArray] at hk
  have hcolumn : k % s.classes < s.classes :=
    Nat.mod_lt _ (Nat.pos_of_ne_zero fun h => by simp [h] at hk)
  have hrow : k / s.classes < s.count := Nat.div_lt_of_lt_mul (by rwa [Nat.mul_comm])
  have hentry : s.entry ⟨k / s.classes, hrow⟩ ⟨k % s.classes, hcolumn⟩ = ⟨k, hsize ▸ hk⟩ :=
    Fin.ext ((s.entry_of_rows hinner _ _).trans (Nat.div_add_mod' k s.classes))
  have hget := s.get_lanes x ⟨k / s.classes, hrow⟩ ⟨k % s.classes, hcolumn⟩
  rw [hentry] at hget
  exact (Vector.getElem_flatten hk).trans hget

end Split

theorem Tensor.getElem?_lanes_rowColumn {α : Type} (x : Tensor α) {index : List Nat}
    (h : x.shape.Contains index) (axis : Nat) :
    (((Split.flattened x.shape axis).lanes x.entries)[(x.shape.rowColumn axis index).1]?.bind
        fun row => row[(x.shape.rowColumn axis index).2]?) = x.at? index := by
  have hrow := Shape.ravel_lt (Shape.contains_take h axis)
  have hcolumn := Shape.ravel_lt (Shape.contains_drop h axis)
  have hcount : (Split.flattened x.shape axis).count = Shape.size (x.shape.take axis) :=
    Nat.mul_one _
  rw [Tensor.at?, Shape.ravel_eq_rowColumn h axis]
  exact Split.getElem?_lanes rfl x.entries (Nat.lt_of_lt_of_eq hrow hcount.symm) hcolumn

namespace Stored

variable {α : Type}

/-- A matrix holds a tensor in memory, with everything from `axis` on as one class index. -/
structure FlattenedTo (x : Stored α) (axis : Nat) {n d : Nat} (matrix : Vector (Vector α d) n) :
    Prop where
  rows : n = (x.shape.take axis).prod
  columns : d = (x.shape.drop axis).prod
  size : n * d = x.shape.prod
  /-- The indices of the tensor and the places of the matrix correspond one to one. -/
  places : Set.BijOn (x.shape.rowColumn axis) {index | x.shape.Contains index}
    (Set.Iio n ×ˢ Set.Iio d)
  /-- The entry of an index is at its row and column. -/
  entry (index : List Nat) : x.shape.Contains index →
    (matrix[(x.shape.rowColumn axis index).1]?.bind
        fun row => row[(x.shape.rowColumn axis index).2]?) =
      x.memory[(placeOf x.offset x.strides index).toNat]?

theorem flattenedTo_lanes (x : Stored α) {axis : Nat} (haxis : axis ≤ x.shape.length) :
    x.FlattenedTo axis ((Split.flattened x.tensor.shape axis).lanes x.tensor.entries) where
  rows := (Nat.mul_one _).trans (Shape.size_eq_prod _)
  columns := Shape.size_eq_prod _
  size := (Split.count_mul_classes _).trans (Shape.size_eq_prod _)
  places := by
    rw [Split.count, Split.flattened, Nat.mul_one]
    exact Shape.bijOn_rowColumn haxis
  entry index h := (x.tensor.getElem?_lanes_rowColumn h axis).trans (x.at?_tensor h)

/-- **The rows of a tensor in memory.** There are some exactly if the axis exists and no dimension
from it on is empty. They are the matrix whose rows are numbered by the indices before the axis and
whose columns by those from it on; row after row it has the entries of the tensor, and joined it is
the tensor. -/
theorem rows_tensor (x : Stored α) (axis : Nat) :
    ((∃ s, Split.rows x.tensor.shape axis = .ok s) ↔
      axis ≤ x.shape.length ∧ 0 ∉ x.shape.drop axis) ∧
    (∀ e, Split.rows x.tensor.shape axis = .error e ↔
      x.shape.length < axis ∧ e = .axisOutOfRange axis x.shape.length ∨
      axis ≤ x.shape.length ∧ 0 ∈ x.shape.drop axis ∧ e = .noClasses x.shape) ∧
    ∀ s, Split.rows x.tensor.shape axis = .ok s →
      x.FlattenedTo axis (s.lanes x.tensor.entries) ∧
      Tensor.ofArray? x.shape (s.lanes x.tensor.entries).flatten.toArray = some x.tensor ∧
      (⟨x.tensor.shape, s.join (s.lanes x.tensor.entries)⟩ : Tensor α) = x.tensor := by
  refine ⟨Split.exists_rows_eq_ok_iff, fun e => Split.rows_eq_error_iff, fun s hs => ?_⟩
  obtain ⟨haxis, -, rfl⟩ := rows_eq_ok_iff.mp hs
  refine ⟨x.flattenedTo_lanes haxis, ?_, ?_⟩
  · rw [Split.toArray_flatten_lanes rfl]
    exact dif_pos x.tensor.entries.size_toArray
  · rw [Split.join_lanes]

/-- The transpose of two rows of three, cut between its dimensions, and of no rows of three, which
has no classes behind that cut. Past the last dimension there is no cut at all. -/
theorem rows_tensor_transposed :
    let x := columnMajor (⟨[3, 2], #v[1, 4, 2, 5, 3, 6]⟩ : Tensor Nat)
    let empty := columnMajor (⟨[3, 0], #v[]⟩ : Tensor Nat)
    let s := Split.flattened x.tensor.shape 1
    let matrix := s.lanes x.tensor.entries
    x.memory = #[1, 2, 3, 4, 5, 6] ∧ Split.rows x.tensor.shape 1 = .ok s ∧
      matrix.toList.map Vector.toList = [[1, 4], [2, 5], [3, 6]] ∧
      x.FlattenedTo 1 matrix ∧ Tensor.ofArray? x.shape matrix.flatten.toArray = some x.tensor ∧
      (⟨x.tensor.shape, s.join matrix⟩ : Tensor Nat) = x.tensor ∧
      Split.rows empty.tensor.shape 1 = .error (.noClasses [3, 0]) ∧
      Split.rows empty.tensor.shape 3 = .error (.axisOutOfRange 3 2) := by
  intro x empty s matrix
  obtain ⟨-, -, hrows⟩ := rows_tensor x 1
  have hs : Split.rows x.tensor.shape 1 = .ok s := rfl
  obtain ⟨hmatrix, hentries, hjoin⟩ := hrows s hs
  refine ⟨by decide +kernel, hs, by decide +kernel, hmatrix, hentries, hjoin, ?_, ?_⟩
  · exact ((rows_tensor empty 1).2.1 _).mpr (.inr (by decide))
  · exact ((rows_tensor empty 3).2.1 _).mpr (.inl (by decide))

end Stored

end CrossEntropy
