import CrossEntropy.Proofs.LossSums
import CrossEntropy.Proofs.Weightless

/-!
# Proportional targets

The average loss is a quotient. If targets ask of every lane `k` times what other targets ask, and
the lane weighs `k` times as much, then the constant cancels, in the loss and in its gradient. Only
the ratios of the weights of pixels count for this reason.

* `Supervision.Proportional`: targets of lanes that differ by a constant;
* `Targets.SameOn`, `Fits.sameOn_of_proportional`: they make no difference, nor to the reference;
* `scaleWeights`: optional weights, multiplied by a constant;
* **`pixels_proportional`**: weights that differ by a constant, and equal ones in place of none.
-/

namespace CrossEntropy

open Scalar

variable {F : Type} [ExactScalar F]

/-! ## Lanes -/

section Lanes

variable {n d : Nat} {a b : Supervision F n d} {k : F}

/-- `b` asks `k` times as much of every lane as `a`, and gives it `k` times the weight. -/
structure Supervision.Proportional (k : F) (a b : Supervision F n d) : Prop where
  demand (l : Fin n) (c : Fin d) : b.demand l c = k * a.demand l c
  mass (l : Fin n) : b.mass l = k * a.mass l

namespace Supervision.Proportional

variable (h : a.Proportional k b)

include h

theorem sum_mass : ∑ l, b.mass l = k * ∑ l, a.mass l := by
  simp only [h.mass, Finset.mul_sum]

theorem cost_eq (p : Vector F d) (l : Fin n) : b.cost p l = k * a.cost p l := by
  simp only [cost, h.demand, mul_assoc, ← Finset.mul_sum, mul_neg]

variable (hk : k ≠ 0)

include hk

theorem average_eq (p : Vector (Vector F d) n) : b.average p = a.average p := by
  simp only [average, h.cost_eq, h.sum_mass, ← Finset.mul_sum]
  exact mul_div_mul_left _ _ hk

theorem gradient_eq (g : F) (p : Vector (Vector F d) n) :
    b.gradient (g / ∑ l, b.mass l) p = a.gradient (g / ∑ l, a.mass l) p := by
  refine ext_get fun l => ext_get fun c => ?_
  rw [get_gradient, get_gradient, h.sum_mass]
  simp only [h.demand, ← Finset.mul_sum]
  generalize ∑ j, a.demand l j = asked
  generalize ∑ j, a.mass j = weight
  calc g / (k * weight) * ((p.get l).get c * (k * asked) - k * a.demand l c)
      = k * (g * ((p.get l).get c * asked - a.demand l c)) / (k * weight) := by ring
    _ = g * ((p.get l).get c * asked - a.demand l c) / weight := mul_div_mul_left _ _ hk
    _ = g / weight * ((p.get l).get c * asked - a.demand l c) := by ring

end Supervision.Proportional

theorem proportional_pixels {marks : Vector (Option (Fin d)) n}
    {weights weights' : Option (Vector F n)} (h : ∀ l, weightOf weights' l = k * weightOf weights l) :
    Supervision.Proportional k (.pixels (weighMarks marks weights))
      (.pixels (weighMarks marks weights')) := by
  constructor
  · intro l c
    simp only [demand_pixels, h, mul_ite, mul_zero]
  · intro l
    simp only [mass_pixels, h, mul_ite, mul_zero]

end Lanes

/-! ## The operation and its reference -/

/-- Targets are accepted with scores and make no difference, neither to the operation nor to the
reference. -/
structure Targets.SameOn (targets targets' : Targets F) (scores : Tensor F) : Prop where
  operation : (softmaxWithLoss targets).SameOn (softmaxWithLoss targets') scores
  reference : ∃ p loss, targets.reference scores = .ok (p, loss) ∧
    targets'.reference scores = .ok (p, loss)

theorem Fits.sameOn_of_proportional {targets targets' : Targets F} {shape : Shape}
    {s : Split (Shape.size shape)} {a b : Supervision F s.count s.classes} {k : F}
    (ha : Fits targets shape ⟨s, a⟩) (hb : Fits targets' shape ⟨s, b⟩) (h : a.Proportional k b)
    (hk : k ≠ 0) (x : Vector F (Shape.size shape)) : targets.SameOn targets' ⟨shape, x⟩ := by
  refine ⟨⟨?_, ?_⟩, ?_⟩
  · refine ⟨_, _, ha.forward_eq x, ?_⟩
    rw [hb.forward_eq, h.average_eq hk]
  · intro outGradient g hg
    refine ⟨_, ha.lossBackward_eq_join x hg, ?_⟩
    rw [hb.lossBackward_eq_join x hg, h.gradient_eq hk]
  · refine ⟨_, _, ha.reference_eq x, ?_⟩
    rw [hb.reference_eq, h.average_eq hk]

/-! ## Weights of pixels -/

/-- The weights of locations, one where no weights are given, multiplied by a constant. -/
def scaleWeights (k : F) (shape : Shape) (weights : Option (Tensor F)) : Tensor F :=
  (weights.getD ⟨shape, Vector.replicate _ 1⟩).map (k * ·)

theorem scaleWeights_none (k : F) (shape : Shape) :
    scaleWeights k shape none = ⟨shape, Vector.replicate _ k⟩ := by
  simp [scaleWeights, Tensor.map]

theorem exists_scaleWeights (k : F) {shape : Shape} (weights : Option (Vector F (Shape.size shape))) :
    ∃ scaled : Vector F (Shape.size shape),
      scaleWeights k shape (weights.map (Tensor.mk shape)) = ⟨shape, scaled⟩ ∧
        ∀ l, weightOf (some scaled) l = k * weightOf weights l := by
  cases weights with
  | none =>
    refine ⟨_, scaleWeights_none k shape, fun l => ?_⟩
    simp [weightOf, Vector.get]
  | some weights => exact ⟨_, rfl, fun l => Vector.get_map ..⟩

theorem Fits.sameOn_scaleWeights {labels : Tensor Int32} {weights : Option (Tensor F)}
    {scores : Tensor F} {f : Fitted F scores.shape}
    (hf : Fits (.pixels labels weights) scores.shape f) {k : F} (hk : k ≠ 0) :
    (Targets.pixels labels weights).SameOn
      (.pixels labels (some (scaleWeights k labels.shape weights))) scores := by
  obtain ⟨shape, x⟩ := scores
  cases hf with
  | @pixels n d h w entries marks weights hd hread =>
    obtain ⟨scaled, hscaled, hweight⟩ := exists_scaleWeights k weights
    rw [hscaled]
    have hfits : Fits (.pixels _ (weights.map (Tensor.mk [n, h, w]))) [n, d, h, w] _ :=
      .pixels hd hread
    have hfits' := @Fits.pixels F _ n d h w _ _ (some scaled) hd hread
    exact hfits.sameOn_of_proportional hfits' (proportional_pixels hweight) hk x

/-- **Only the ratios of weights count.** Multiplied by a constant other than zero, the weights of
accepted pixels give the same probabilities, average loss and gradient of it, and so does one such
constant in place of no weights. This includes the case in which no weight is left to divide by. -/
theorem pixels_proportional (labels : Tensor Int32) (scores : Tensor F) {k : F} (hk : k ≠ 0) :
    (∀ (weights : Tensor F) (outputs : List (Tensor F)),
      (softmaxWithLoss (.pixels labels (some weights))).forward scores = .ok outputs →
        (Targets.pixels labels (some weights)).SameOn
          (.pixels labels (some (weights.map (k * ·)))) scores) ∧
    ∀ outputs : List (Tensor F),
      (softmaxWithLoss (.pixels labels none)).forward scores = .ok outputs →
        (Targets.pixels labels none).SameOn
          (.pixels labels (some ⟨labels.shape, Vector.replicate _ k⟩)) scores := by
  constructor
  · intro weights outputs hforward
    obtain ⟨f, hf, -⟩ := forward_eq_ok_iff.mp hforward
    exact hf.sameOn_scaleWeights hk
  · intro outputs hforward
    obtain ⟨f, hf, -⟩ := forward_eq_ok_iff.mp hforward
    rw [← scaleWeights_none]
    exact hf.sameOn_scaleWeights hk

/-- Three pixels, one of them ignored, with weights that are negated and doubled. -/
theorem pixels_proportional_ignored :
    letI := ExactScalar.rational
    let labels : Tensor Int32 := ⟨[1, 1, 3], #v[0, -1, 1]⟩
    let weights : Tensor ℚ := ⟨[1, 1, 3], #v[3, 5, 1]⟩
    let scores : Tensor ℚ := ⟨[1, 2, 1, 3], #v[1, 2, 1, 3, 4, 3]⟩
    (Targets.pixels labels (some weights)).SameOn
        (.pixels labels (some ⟨[1, 1, 3], #v[-6, -10, -2]⟩)) scores ∧
      (Targets.pixels labels none).SameOn
        (.pixels labels (some ⟨[1, 1, 3], #v[-2, -2, -2]⟩)) scores := by
  let _ := ExactScalar.rational
  intro labels weights scores
  have hweights : weights.map (-2 * ·) = ⟨[1, 1, 3], #v[-6, -10, -2]⟩ := by decide +kernel
  have hforward : (softmaxWithLoss (.pixels labels (some weights))).forward scores =
      .ok [⟨[1, 2, 1, 3], #v[5/6, 5/6, 5/6, 1/6, 1/6, 1/6]⟩, Tensor.scalar (1/3)] := by decide +kernel
  have hforward' : (softmaxWithLoss (.pixels labels none)).forward scores =
      .ok [⟨[1, 2, 1, 3], #v[5/6, 5/6, 5/6, 1/6, 1/6, 1/6]⟩, Tensor.scalar (1/2)] := by decide +kernel
  have hsame := pixels_proportional (F := ℚ) labels scores (k := -2) (by decide)
  rw [← hweights]
  exact ⟨hsame.1 weights _ hforward, hsame.2 _ hforward'⟩

end CrossEntropy
