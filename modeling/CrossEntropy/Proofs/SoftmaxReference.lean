import CrossEntropy.Proofs.Lane
import CrossEntropy.Proofs.Stored

/-!
# Softmax against its reference

The softmax operation cuts a tensor into lanes and works lane by lane; its reference numbers the
entries of a matrix. Both give the same answer in every arithmetic, for tensors that lie in memory
in any order.

* `rows_eq_map`, `softmaxAxis_eq`: the two ways to the rows of a tensor;
* **`softmaxForward_eq_softmaxAxis`**: the same entries, or the same error;
* **`forward_softmax_stored`**: the operation on a tensor in memory.
-/

namespace CrossEntropy

variable {A : Type} [Scalar A]

theorem rows_eq_map (shape : Shape) (axis : Nat) :
    Split.rows shape axis = (flattenedDimensions shape axis).map fun _ =>
      Split.flattened shape axis := by
  unfold Split.rows
  cases flattenedDimensions shape axis <;> rfl

theorem flattenedDimensions_eq_ok {shape : Shape} {axis n d : Nat}
    (h : flattenedDimensions shape axis = .ok (n, d)) :
    n = Shape.size (shape.take axis) ∧ d = Shape.size (shape.drop axis) := by
  unfold flattenedDimensions at h
  split at h
  · cases h
  · split at h
    · cases h
    · cases h
      exact ⟨rfl, rfl⟩

theorem get_softmaxMatrix {n d : Nat} (x : Fin n → Fin d → A) {k : Fin (Shape.size [n, d])}
    {i : Fin n} {j : Fin d} (hk : k.val = i * d + j) :
    (Reference.softmaxMatrix x).get k = Reference.probability (x i) j := by
  obtain ⟨hdiv, hmod⟩ := Split.quotient_remainder (q := i) j.isLt
  unfold Reference.softmaxMatrix
  rw [Vector.get_ofFn]
  simp only [hk, hdiv, hmod]

/-- **The softmax of a matrix is that of its rows**, one lane each. -/
theorem softmaxMatrix_eq_join {size : Nat} {s : Split size} (hinner : s.inner = 1)
    (hsize : Shape.size [s.outer, s.classes] = size) (x : Vector A size) :
    (Reference.softmaxMatrix (Reference.byClass (x.cast hsize.symm))).cast hsize =
      s.join (softmaxLanes (s.lanes x)) := by
  refine s.ext_entry fun l c => ?_
  have hentry := s.entry_of_rows hinner l c
  rw [Split.get_join_softmaxLanes, Vector.get_cast,
    get_softmaxMatrix (i := ⟨l, s.row_of_lane_lt hinner l⟩) (j := c) _ hentry]
  refine congrArg (fun row => Reference.probability row c) (funext fun c => ?_)
  unfold Reference.byClass
  rw [Vector.get_cast]
  exact congrArg x.get (Fin.ext (s.entry_of_rows hinner l c).symm)

theorem softmaxAxis_eq {axis n d : Nat} {scores : Tensor A}
    (h : flattenedDimensions scores.shape axis = .ok (n, d)) :
    Reference.softmaxAxis axis scores = .ok ⟨scores.shape,
      (Split.flattened scores.shape axis).join
        (softmaxLanes ((Split.flattened scores.shape axis).lanes scores.entries))⟩ := by
  obtain ⟨rfl, rfl⟩ := flattenedDimensions_eq_ok h
  unfold Reference.softmaxAxis
  split
  next e he => cases h.symm.trans he
  next n d hok =>
    cases h.symm.trans hok
    refine congrArg (fun entries => Except.ok (Tensor.mk scores.shape entries)) ?_
    exact softmaxMatrix_eq_join (s := Split.flattened scores.shape axis) rfl _ scores.entries

/-- **The softmax operation gives the answer of its reference**, be it entries or an error. -/
theorem softmaxForward_eq_softmaxAxis (axis : Nat) (scores : Tensor A) :
    softmaxForward axis scores = Reference.softmaxAxis axis scores := by
  unfold softmaxForward
  rw [rows_eq_map]
  cases h : flattenedDimensions scores.shape axis with
  | ok dims => exact (softmaxAxis_eq h).symm
  | error e =>
    unfold Reference.softmaxAxis
    split
    next e' he =>
      cases h.symm.trans he
      rfl
    next n d hok => cases h.symm.trans hok

/-- **The softmax operation on a tensor in memory**, in any layout, answers with the one output of
its reference, or with the same error. -/
theorem forward_softmax_stored (axis : Nat) (scores : Stored A) :
    (softmax axis).forward scores.tensor =
      (Reference.softmaxAxis axis scores.tensor).map fun probabilities => [probabilities] := by
  rw [← softmaxForward_eq_softmaxAxis]
  rfl

end CrossEntropy
