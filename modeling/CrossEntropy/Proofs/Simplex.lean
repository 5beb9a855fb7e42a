import CrossEntropy.Proofs.Jacobian
import CrossEntropy.Proofs.Largest
import CrossEntropy.Proofs.LossReference

/-!
# Probabilities are distributions

In an ordered field, with an exponential function that is positive and nondecreasing and is one at
zero, softmax never divides by zero and never takes the exponential of a positive number, and what
it gives is a distribution.

* `IsSimplex`, **`softmaxLane_isSimplex`**: what holds of one lane;
* `Tensor.Simplexes`: the same of the entries at every location of a tensor;
* **`forward_simplexes`**: the outputs of both operations and of their references.
-/

namespace CrossEntropy

open Scalar

/-! ## One distribution -/

section Lane

variable {F : Type} [LinearOrder F] [ExactScalar F] {d : Nat}

/-- The quotients `p` of the exponentials of scores `x` by their sum are a distribution, and neither
the exponentials nor the quotients overflow. -/
structure IsSimplex (x p : Vector F d) : Prop where
  exponential_le_one (c : Fin d) : (shiftedExponentials x).get c ≤ 1
  one_le_divisor : 1 ≤ total (shiftedExponentials x)
  quotient (c : Fin d) :
    p.get c = (shiftedExponentials x).get c / total (shiftedExponentials x)
  nonneg (c : Fin d) : 0 ≤ p.get c
  sum_eq_one : ∑ c, p.get c = 1

variable [MaximumScalar F] [LawfulExp F]

omit [MaximumScalar F] in
theorem shiftedExponentials_pos (x : Vector F d) (c : Fin d) :
    0 < (shiftedExponentials x).get c := by
  rw [get_shiftedExponentials]
  exact LawfulExp.exp_pos _

theorem shiftedExponentials_le_one (x : Vector F d) (c : Fin d) :
    (shiftedExponentials x).get c ≤ 1 := by
  have := MaximumScalar.toIsStrictOrderedRing (F := F)
  have hle : x.get c - largest x ≤ 0 := sub_nonpos.mpr (le_largest x c)
  rw [get_shiftedExponentials, ← LawfulExp.exp_zero]
  exact LawfulExp.exp_le_exp hle

/-- The divisor holds the exponential of the largest score, which is one. -/
theorem one_le_total_shiftedExponentials (hd : 0 < d) (x : Vector F d) :
    1 ≤ total (shiftedExponentials x) := by
  have := MaximumScalar.toIsStrictOrderedRing (F := F)
  obtain ⟨c, hc⟩ := exists_get_eq_largest hd x
  have hone : (shiftedExponentials x).get c = 1 := by
    rw [get_shiftedExponentials, hc, sub_self, LawfulExp.exp_zero]
  calc 1 = (shiftedExponentials x).get c := hone.symm
    _ ≤ ∑ j, (shiftedExponentials x).get j :=
      Finset.single_le_sum (fun j _ => (shiftedExponentials_pos x j).le) (Finset.mem_univ c)
    _ = total (shiftedExponentials x) := (total_eq_sum _).symm

/-- **The softmax of a lane is a distribution**, if the lane has an entry. -/
theorem softmaxLane_isSimplex (hd : 0 < d) (x : Vector F d) : IsSimplex x (softmaxLane x) := by
  have := MaximumScalar.toIsStrictOrderedRing (F := F)
  have hone : 1 ≤ total (shiftedExponentials x) := one_le_total_shiftedExponentials hd x
  have hpos : 0 < total (shiftedExponentials x) := zero_lt_one.trans_le hone
  constructor
  · exact shiftedExponentials_le_one x
  · exact hone
  · exact get_softmaxLane_eq_div x
  · intro c
    rw [get_softmaxLane_eq_div]
    exact div_nonneg (shiftedExponentials_pos x c).le hpos.le
  · simp only [get_softmaxLane_eq_div]
    rw [← Finset.sum_div, ← total_eq_sum, div_self hpos.ne']

end Lane

/-! ## All distributions of a tensor -/

variable {F : Type} [LinearOrder F] [ExactScalar F]

/-- Probabilities `p` of the shape of the scores, a distribution at every location. -/
def Tensor.Simplexes (location : List Nat → List Nat) (scores p : Tensor F) : Prop :=
  ∃ q, p = ⟨scores.shape, q⟩ ∧ ∃ s : Split scores.size, s.LocatedBy location ∧
    ∀ l, IsSimplex ((s.lanes scores.entries).get l) ((s.lanes q).get l)

variable [MaximumScalar F] [LawfulExp F] {location : List Nat → List Nat}

theorem Split.LocatedBy.simplexes {shape : Shape} {s : Split (Shape.size shape)}
    (h : s.LocatedBy location) (hclasses : s.classes ≠ 0) (x : Vector F (Shape.size shape)) :
    Tensor.Simplexes location ⟨shape, x⟩ ⟨shape, s.softmax x⟩ := by
  refine ⟨s.softmax x, rfl, s, h, ?_⟩
  intro l
  rw [Split.softmax, s.lanes_join, get_softmaxLanes]
  exact softmaxLane_isSimplex (Nat.pos_of_ne_zero hclasses) _

theorem Operation.Normalizes.simplexes {operation : Operation F} {scores : Tensor F}
    {outputs : List (Tensor F)} (h : operation.Normalizes scores.shape location)
    (hforward : operation.forward scores = .ok outputs) :
    ∃ p, outputs[0]? = some p ∧ scores.Simplexes location p := by
  obtain ⟨s, hclasses, hlocated, hsoftmax⟩ := h
  obtain ⟨rest, houtputs⟩ := hsoftmax.forward scores.entries
  cases hforward.symm.trans houtputs
  exact ⟨_, rfl, hlocated.simplexes hclasses scores.entries⟩

theorem softmaxAxis_simplexes {axis : Nat} {scores p : Tensor F}
    (h : Reference.softmaxAxis axis scores = .ok p) : scores.Simplexes (List.take axis) p := by
  rw [← softmaxForward_eq_softmaxAxis] at h
  have hforward : (softmax axis).forward scores = .ok [p] := bind_eq_ok_iff.mpr ⟨p, h, rfl⟩
  obtain ⟨_, hp, hsimplexes⟩ := (softmax_normalizes hforward).simplexes hforward
  cases hp
  exact hsimplexes

theorem spatialSoftmaxCrossEntropy_simplexes {scores p : Tensor F} {labels : Tensor Int32}
    {weights : Option (Tensor F)} {loss : F}
    (h : Reference.spatialSoftmaxCrossEntropy scores labels weights = .ok (p, loss)) :
    scores.Simplexes (List.eraseIdx · 1) p := by
  unfold Reference.spatialSoftmaxCrossEntropy at h
  split at h
  next labels weights n d height width x =>
    simp only [bind_eq_ok_iff] at h
    obtain ⟨entries, -, weight, -, h⟩ := h
    by_cases hd : d = 0
    · rw [if_pos hd] at h
      cases h
    · rw [if_neg hd] at h
      obtain ⟨marks, -, h⟩ := bind_eq_ok_iff.mp h
      cases h
      rw [softmaxImages_eq_tensor]
      exact (Split.classAxis_locatedBy n d [height, width]).simplexes hd x
  next => cases h

/-- **Every output distribution is a simplex**: those of softmax from any axis on and of softmax
with loss against any targets, and those of the references for tensors and for images. -/
theorem forward_simplexes {D : Type} [Scalar D] [Precision F D] :
    (∀ (axis : Nat) (scores : Tensor F) (outputs : List (Tensor F)),
      (softmax axis).forward scores = .ok outputs →
        ∃ p, outputs[0]? = some p ∧ scores.Simplexes (List.take axis) p) ∧
    (∀ (targets : Targets F) (scores : Tensor F) (outputs : List (Tensor F)),
      (softmaxWithLoss targets).forward scores = .ok outputs →
        ∃ p, outputs[0]? = some p ∧ scores.Simplexes (List.eraseIdx · 1) p) ∧
    (∀ (axis : Nat) (scores p : Tensor F), Reference.softmaxAxis axis scores = .ok p →
      scores.Simplexes (List.take axis) p) ∧
    ∀ (scores : Tensor F) (labels : Tensor Int32) (weights : Option (Tensor F)) (p : Tensor F)
      (loss : F), Reference.spatialSoftmaxCrossEntropy scores labels weights = .ok (p, loss) →
        scores.Simplexes (List.eraseIdx · 1) p := by
  refine ⟨?_, ?_, ?_, ?_⟩
  · intro axis scores outputs h
    exact (softmax_normalizes h).simplexes h
  · intro targets scores outputs h
    exact (softmaxWithLoss_normalizes h).simplexes h
  · intro axis scores p h
    exact softmaxAxis_simplexes h
  · intro scores labels weights p loss h
    exact spatialSoftmaxCrossEntropy_simplexes h

/-- Real scores of two pixels, one of them ignored, as rows of one column and as an image. -/
theorem forward_simplexes_real :
    letI := ExactScalar.real
    let scores : Tensor ℝ := ⟨[1, 2, 1, 2], #v[1, 2, 3, 4]⟩
    let labels : Tensor Int32 := ⟨[1, 1, 2], #v[0, -1]⟩
    (∃ outputs p, (softmax 3).forward scores = .ok outputs ∧ outputs[0]? = some p ∧
      scores.Simplexes (List.take 3) p) ∧
    (∃ outputs p, (softmaxWithLoss (.pixels labels none)).forward scores = .ok outputs ∧
      outputs[0]? = some p ∧ scores.Simplexes (List.eraseIdx · 1) p) ∧
    (∃ p, Reference.softmaxAxis 2 scores = .ok p ∧ scores.Simplexes (List.take 2) p) ∧
    ∃ p loss, Reference.spatialSoftmaxCrossEntropy scores labels none = .ok (p, loss) ∧
      scores.Simplexes (List.eraseIdx · 1) p := by
  let _ := ExactScalar.real
  have := lawfulExp_real
  have := ExactScalar.maximumScalar ℝ Real.exp Real.log (1 / 100)
  intro scores labels
  have hread : readLabels 2 (markOf? 2) labels = .ok #v[some 0, none] :=
    readLabels_eq_ok_iff.mpr (by decide +kernel)
  obtain ⟨hsoftmax, hloss, haxis, hspatial⟩ := forward_simplexes (F := ℝ) (D := ℝ)
  refine ⟨?_, ?_, ?_, ?_⟩
  · have hforward : (softmax 3).forward scores = .ok _ :=
      softmax_forward_eq_ok_iff.mpr ⟨by decide, by decide, rfl⟩
    obtain ⟨p, hp⟩ := hsoftmax 3 scores _ hforward
    exact ⟨_, p, hforward, hp⟩
  · have hfits : Fits (.pixels labels none) scores.shape _ :=
      @Fits.pixels ℝ _ 1 2 1 2 #v[0, -1] #v[some 0, none] none (by decide) hread
    have hforward : (softmaxWithLoss (.pixels labels none)).forward scores = .ok _ :=
      forward_eq_ok_iff.mpr ⟨_, hfits, rfl⟩
    obtain ⟨p, hp⟩ := hloss _ scores _ hforward
    exact ⟨_, p, hforward, hp⟩
  · have hreference : Reference.softmaxAxis 2 scores = .ok _ := softmaxAxis_eq rfl
    exact ⟨_, hreference, haxis 2 scores _ hreference⟩
  · have hreference : Reference.spatialSoftmaxCrossEntropy scores labels none = .ok _ :=
      spatialSoftmaxCrossEntropy_eq (by decide) hread _
    exact ⟨_, _, hreference, hspatial scores labels none _ _ hreference⟩

end CrossEntropy
