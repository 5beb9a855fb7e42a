import CrossEntropy.Proofs.Exact
import CrossEntropy.Proofs.Probabilities

/-!
# The Jacobian of softmax

The backward pass of the probabilities never forms a matrix. In a commutative ring it is all the
same the product of the out-gradient with the Jacobian of softmax at the probabilities that the
forward pass gives, whatever these are.

* `total_eq_sum`, `get_softmaxBackwardLane`: sums and gradients of a lane;
* **`get_softmaxBackwardLane_eq_sum`**: the Jacobian product in one lane;
* `jacobian`: the Jacobian of the probabilities of a tensor, by locations;
* `Operation.MultipliesByJacobian`: the backward pass is the product with it;
* **`backward_eq_jacobian`**: this is so for both operations and all accepted scores.
-/

namespace CrossEntropy

variable {R : Type} [RingScalar R] {d : Nat}

/-! ## One lane -/

theorem total_eq_sum (x : Vector R d) : total x = ∑ j, x.get j := by
  rw [total_eq, foldl_add_eq_sum, zero_add]

theorem get_softmaxBackwardLane (p g : Vector R d) (j : Fin d) :
    (softmaxBackwardLane p g).get j = p.get j * (g.get j - ∑ i, p.get i * g.get i) := by
  unfold softmaxBackwardLane
  simp only [get_zipWith, total_eq_sum]

/-- **The gradient of a lane is a product with the Jacobian**: the derivative of probability `i` by
score `j` is `p_i * (δ i j - p_j)`. -/
theorem get_softmaxBackwardLane_eq_sum (p g : Vector R d) (j : Fin d) :
    (softmaxBackwardLane p g).get j =
      ∑ i, g.get i * p.get i * ((if i = j then 1 else 0) - p.get j) := by
  have hdelta : ∑ i, g.get i * p.get i * (if i = j then 1 else 0) = g.get j * p.get j := by
    simp
  have hprojection : ∑ i, g.get i * p.get i * p.get j = p.get j * ∑ i, p.get i * g.get i := by
    rw [Finset.mul_sum]
    apply Finset.sum_congr rfl
    intro i _
    ring
  calc (softmaxBackwardLane p g).get j
      = p.get j * (g.get j - ∑ i, p.get i * g.get i) := get_softmaxBackwardLane p g j
    _ = g.get j * p.get j - p.get j * ∑ i, p.get i * g.get i := by ring
    _ = ∑ i, g.get i * p.get i * ((if i = j then 1 else 0) - p.get j) := by
      rw [← hdelta, ← hprojection, ← Finset.sum_sub_distrib]
      apply Finset.sum_congr rfl
      intro i _
      ring

/-! ## All entries -/

open Matrix

variable {shape : Shape} {location : List Nat → List Nat}

/-- The derivative of probability `i` by score `k`: `p_i * (δ i k - p_k)` if they are at one
location, and nothing if they are not. -/
def jacobian (location : List Nat → List Nat) (p : Vector R (Shape.size shape)) :
    Matrix (Fin (Shape.size shape)) (Fin (Shape.size shape)) R :=
  Matrix.of fun i k =>
    if i ∈ shape.peers location k then p.get i * ((if i = k then 1 else 0) - p.get k) else 0

theorem vecMul_jacobian (p : Vector R (Shape.size shape)) (g : Fin (Shape.size shape) → R)
    (k : Fin (Shape.size shape)) :
    (g ᵥ* jacobian location p) k =
      ∑ i ∈ shape.peers location k, g i * p.get i * ((if i = k then 1 else 0) - p.get k) := by
  simp only [vecMul, dotProduct, jacobian, of_apply, mul_ite, mul_zero, Finset.sum_ite_mem,
    Finset.univ_inter]
  apply Finset.sum_congr rfl
  intro i _
  split_ifs <;> ring

theorem jacobian_isSymm (p : Vector R (Shape.size shape)) : (jacobian location p).IsSymm := by
  ext k i
  have hpeers : k ∈ shape.peers location i ↔ i ∈ shape.peers location k := by
    simp [Shape.peers, eq_comm]
  simp only [transpose_apply, jacobian, of_apply, hpeers]
  by_cases h : i = k
  · rw [h]
  · rw [if_neg h, if_neg (Ne.symm h)]
    split_ifs
    · ring
    · rfl

theorem vecMul_dotProduct_comm {n : Nat} {M : Matrix (Fin n) (Fin n) R} (hM : M.IsSymm)
    (g v : Fin n → R) : (g ᵥ* M) ⬝ᵥ v = g ⬝ᵥ (v ᵥ* M) := by
  rw [← dotProduct_mulVec, ← vecMul_transpose, hM.eq]

theorem get_softmaxBackward_eq_sum {s : Split (Shape.size shape)} (hs : s.LocatedBy location)
    (x g : Vector R (Shape.size shape)) :
    (s.softmaxBackward x g).get = g.get ᵥ* jacobian location (s.softmax x) := by
  funext k
  obtain ⟨l, c, rfl⟩ : ∃ l c, s.entry l c = k := ⟨_, _, s.entry_laneOf_classOf k⟩
  have hp (j : Fin s.classes) :
      (s.softmax x).get (s.entry l j) = ((softmaxLanes (s.lanes x)).get l).get j :=
    s.get_join_entry _ l j
  have hdelta (j : Fin s.classes) : s.entry l j = s.entry l c ↔ j = c := by
    constructor
    · intro h
      rw [← s.classOf_entry l j, h, s.classOf_entry]
    · rintro rfl
      rfl
  rw [vecMul_jacobian, hs.sum_peers, Split.softmaxBackward, s.get_join_entry, softmaxBackwardLanes,
    get_zipWith, get_softmaxBackwardLane_eq_sum]
  simp only [hp, hdelta, s.get_lanes]

/-! ## Both operations -/

/-- On some scores, the backward pass of the first output is a linear map, the product with the
Jacobian of softmax at the probabilities `p`, and it is self-adjoint. -/
structure Operation.MultipliesByJacobian (operation : Operation R) (scores : Tensor R)
    (location : List Nat → List Nat) (p : Vector R scores.size)
    (J : (Fin scores.size → R) →ₗ[R] Fin scores.size → R) : Prop where
  backward (g : Vector R scores.size) :
    operation.backward ⟨scores.shape, g⟩ scores 0 = .ok ⟨scores.shape, Vector.ofFn (J g.get)⟩
  apply (g : Fin scores.size → R) (k : Fin scores.size) :
    J g k = ∑ i ∈ scores.shape.peers location k,
      g i * p.get i * ((if i = k then 1 else 0) - p.get k)
  selfAdjoint (g v : Fin scores.size → R) : J g ⬝ᵥ v = g ⬝ᵥ J v

theorem Operation.Normalizes.multipliesByJacobian {operation : Operation R} {scores : Tensor R}
    {outputs : List (Tensor R)} (h : operation.Normalizes scores.shape location)
    (hforward : operation.forward scores = .ok outputs) :
    ∃ p J, outputs[0]? = some ⟨scores.shape, p⟩ ∧
      operation.MultipliesByJacobian scores location p J := by
  obtain ⟨s, -, hlocated, hsoftmax⟩ := h
  obtain ⟨rest, houtputs⟩ := hsoftmax.forward scores.entries
  cases hforward.symm.trans houtputs
  refine ⟨s.softmax scores.entries, (jacobian location (s.softmax scores.entries)).vecMulLinear,
    rfl, ?_⟩
  constructor
  · intro g
    rw [vecMulLinear_apply, ← get_softmaxBackward_eq_sum hlocated]
    refine (hsoftmax.backward scores.entries g).trans ?_
    congr 2
    apply ext_get
    intro k
    rw [Vector.get_ofFn]
  · intro g k
    exact vecMul_jacobian _ g k
  · intro g v
    exact vecMul_dotProduct_comm (jacobian_isSymm _) g v

/-- **The backward pass of the probabilities is the Jacobian product**, for softmax from any axis on
and for softmax with loss against any targets. -/
theorem backward_eq_jacobian {D : Type} [Scalar D] [Precision R D] :
    (∀ (axis : Nat) (scores : Tensor R) (outputs : List (Tensor R)),
      (softmax axis).forward scores = .ok outputs →
        ∃ p J, outputs[0]? = some ⟨scores.shape, p⟩ ∧
          (softmax axis).MultipliesByJacobian scores (List.take axis) p J) ∧
      ∀ (targets : Targets R) (scores : Tensor R) (outputs : List (Tensor R)),
        (softmaxWithLoss targets).forward scores = .ok outputs →
          ∃ p J, outputs[0]? = some ⟨scores.shape, p⟩ ∧
            (softmaxWithLoss targets).MultipliesByJacobian scores (List.eraseIdx · 1) p J := by
  constructor
  · intro axis scores outputs h
    exact (softmax_normalizes h).multipliesByJacobian h
  · intro targets scores outputs h
    exact (softmaxWithLoss_normalizes h).multipliesByJacobian h

/-- Two rows of two classes, and two pixels of which one is ignored. -/
theorem backward_eq_jacobian_ignored :
    letI := ExactScalar.rational
    let rows : Tensor ℚ := ⟨[2, 2], #v[1, 3, 2, 1]⟩
    let images : Tensor ℚ := ⟨[1, 2, 1, 2], #v[1, 2, 3, 4]⟩
    let targets : Targets ℚ := .pixels ⟨[1, 1, 2], #v[0, -1]⟩ (some ⟨[1, 1, 2], #v[3, 5]⟩)
    (∃ p J, [(⟨[2, 2], #v[5/6, 1/6, 1/3, 2/3]⟩ : Tensor ℚ)][0]? = some ⟨rows.shape, p⟩ ∧
      (softmax 1).MultipliesByJacobian rows (List.take 1) p J) ∧
    ∃ p J, [(⟨[1, 2, 1, 2], #v[5/6, 5/6, 1/6, 1/6]⟩ : Tensor ℚ), Tensor.scalar (1/6)][0]? =
      some ⟨images.shape, p⟩ ∧
        (softmaxWithLoss targets).MultipliesByJacobian images (List.eraseIdx · 1) p J :=
  letI := ExactScalar.rational
  ⟨backward_eq_jacobian.1 1 ⟨[2, 2], #v[1, 3, 2, 1]⟩ _ (by decide +kernel),
    backward_eq_jacobian.2 (.pixels ⟨[1, 1, 2], #v[0, -1]⟩ (some ⟨[1, 1, 2], #v[3, 5]⟩))
      ⟨[1, 2, 1, 2], #v[1, 2, 3, 4]⟩ _ (by decide +kernel)⟩

end CrossEntropy
