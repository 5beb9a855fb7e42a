import CrossEntropy.Proofs.ChainRule
import CrossEntropy.Proofs.LossReference

/-!
# Losses as sums

The operation folds total loss and total weight over lanes, each kind of targets in its own way. In
a field both are sums over lanes, and nothing counts of a lane but its probabilities, its weight and
what is asked of its classes.

* `Supervision.mass`, `Supervision.cost`: the weight of a lane and what its logarithms cost;
* **`totals_eq_sum`**: one closed form for the totals of every kind of targets;
* `Fits.forward_eq`, `Fits.lossBackward_eq_join`: outputs and the gradient of the loss in these
  sums;
* `Fits.reference_eq`, `Fits.forward_of_reference`: the reference has the same outputs;
* `fits_or_classless`: the references accept little more than the operation.
-/

namespace CrossEntropy

open Scalar Precision

variable {F : Type} [ExactScalar F]

/-! ## Totals -/

section Totals

variable {n d : Nat}

/-- What a lane weighs in the average: one for a row, what its mark says for a pixel. -/
def Supervision.mass (l : Fin n) : Supervision F n d → F
  | labels _ => 1
  | distributions _ => 1
  | pixels marks =>
    match marks.get l with
    | none => 0
    | some (_, weight) => weight

theorem mass_pixels (marks : Vector (Option (Fin d)) n) (weights : Option (Vector F n)) (l : Fin n) :
    (Supervision.pixels (weighMarks marks weights)).mass l =
      if marks.get l = none then 0 else weightOf weights l := by
  simp only [Supervision.mass, get_weighMarks]
  cases marks.get l <;> rfl

/-- What the logarithms of a lane's probabilities cost. -/
def Supervision.cost (s : Supervision F n d) (p : Vector F d) (l : Fin n) : F :=
  -∑ c, s.demand l c * logProbability (p.get c)

theorem cost_eq_sum (s : Supervision F n d) (p : Vector F d) (l : Fin n) :
    s.cost p l = ∑ c, s.demand l c * -logProbability (p.get c) := by
  simp only [Supervision.cost, mul_neg, Finset.sum_neg_distrib]

/-- **One closed form for the totals of every kind of targets.** -/
theorem totals_eq_sum (s : Supervision F n d) (p : Vector (Vector F d) n) :
    (s.totals p : Totals F) = ⟨∑ l, s.cost (p.get l) l, ∑ l, s.mass l⟩ := by
  cases s with
  | labels classes =>
    refine congrArg₂ Totals.mk ?_ ?_
    · refine (labels_loss p classes).trans ?_
      simp [foldl_add_eq_sum, Supervision.cost, Supervision.demand, classLog, widen]
    · exact (ExactScalar.ofNat_eq_cast n).trans (by simp [Supervision.mass])
  | distributions targets =>
    refine congrArg₂ Totals.mk ?_ ?_
    · refine (distributions_loss p targets).trans ?_
      simp only [lessWeightedLogs_eq, sub_eq_add_neg, foldl_add_eq_sum]
      simp [Supervision.cost, Supervision.demand, widen]
    · exact (ExactScalar.ofNat_eq_cast n).trans (by simp [Supervision.mass])
  | pixels marks =>
    refine congrArg₂ Totals.mk ?_ ?_
    · rw [foldl_eq, ← zero_add (∑ l, _), ← foldl_add_eq_sum]
      refine foldl_congr (fun loss l => ?_) 0
      simp only [Supervision.cost, Supervision.demand, get_zipWith]
      cases marks.get l with
      | none => simp
      | some mark => simp [sub_eq_add_neg, classLog, widen]
    · rw [foldl_eq, ← zero_add (∑ l, _), ← foldl_add_eq_sum]
      refine foldl_congr (fun total l => ?_) 0
      simp only [Supervision.mass]
      cases marks.get l with
      | none => simp
      | some mark => simp [widen]

/-- The average loss of the lanes. -/
def Supervision.average (s : Supervision F n d) (p : Vector (Vector F d) n) : F :=
  (∑ l, s.cost (p.get l) l) / ∑ l, s.mass l

end Totals

/-! ## Outputs and gradients -/

section Outputs

variable {targets : Targets F} {shape : Shape} {s : Split (Shape.size shape)}
  {a : Supervision F s.count s.classes} (h : Fits targets shape ⟨s, a⟩)

include h

theorem Fits.totalWeight_eq_sum (x : Vector F (Shape.size shape)) :
    targets.totalWeight = ∑ l, a.mass l := by
  have hweight := @totalWeight_eq F _ targets ⟨shape, x⟩ _ h
  rwa [Fitted.totals, totals_eq_sum] at hweight

variable (x : Vector F (Shape.size shape))

theorem Fits.forward_eq :
    (softmaxWithLoss targets).forward ⟨shape, x⟩ =
      .ok [⟨shape, s.softmax x⟩, Tensor.scalar (a.average (softmaxLanes (s.lanes x)))] := by
  have hforward : (softmaxWithLoss targets).forward ⟨shape, x⟩ = .ok _ :=
    forward_eq_ok_iff.mpr ⟨_, h, rfl⟩
  rwa [Fitted.totals, totals_eq_sum] at hforward

theorem Fits.lossBackward_eq_join {outGradient : Tensor F} {g : F}
    (hg : onlyEntry outGradient = .ok g) :
    (softmaxWithLoss targets).backward outGradient ⟨shape, x⟩ 1 =
      .ok ⟨shape, s.join (a.gradient (g / ∑ l, a.mass l) (softmaxLanes (s.lanes x)))⟩ := by
  have hbackward := @lossBackward_eq F _ F _ _ targets ⟨shape, x⟩ _ h _ _ hg
  rwa [Fitted.totals, totals_eq_sum] at hbackward

theorem Fits.reference_eq :
    targets.reference ⟨shape, x⟩ =
      .ok (⟨shape, s.softmax x⟩, a.average (softmaxLanes (s.lanes x))) := by
  have haverage : (a.totals (softmaxLanes (s.lanes x)) : Totals F).loss /
      (a.totals (softmaxLanes (s.lanes x)) : Totals F).weight =
        a.average (softmaxLanes (s.lanes x)) := by
    rw [totals_eq_sum, Supervision.average]
  rw [← haverage]
  cases h with
  | @labels n d _ classes _ hread =>
    refine (softmaxCrossEntropy_eq hread x).trans (congrArg Except.ok ?_)
    exact congrArg₂ (Tensor.mk [n, d] · , ·) (softmaxMatrix_eq_tensor x)
      (labels_average x classes).symm
  | @distributions n d t _ =>
    refine (softLabelCrossEntropy_eq x t).trans (congrArg Except.ok ?_)
    exact congrArg₂ (Tensor.mk [n, d] · , ·) (softmaxMatrix_eq_tensor x)
      (distributions_average x t).symm
  | @pixels n d height width _ marks weights hd hread =>
    refine (spatialSoftmaxCrossEntropy_weighted hd hread weights x).trans (congrArg Except.ok ?_)
    exact congrArg₂ (Tensor.mk [n, d, height, width] · , ·) (softmaxImages_eq_tensor x)
      (pixels_average x marks weights).symm

theorem Fits.forward_of_reference {p : Tensor F} {loss : F}
    (hreference : targets.reference ⟨shape, x⟩ = .ok (p, loss)) :
    (softmaxWithLoss targets).forward ⟨shape, x⟩ = .ok [p, Tensor.scalar loss] := by
  rw [h.reference_eq] at hreference
  cases hreference
  exact h.forward_eq x

end Outputs

/-! ## What references accept -/

/-- What the reference accepts and has some weight fits the scores, but for distributions over no
classes. -/
theorem fits_or_classless {targets : Targets F} {scores : Tensor F} {result : Tensor F × F}
    (hok : targets.reference scores = .ok result) (hw : targets.totalWeight ≠ 0) :
    (∃ f, Fits targets scores.shape f) ∨ ∃ (n : Nat) (x t : Vector F (Shape.size [n, 0])),
      scores = ⟨[n, 0], x⟩ ∧ targets = .distributions ⟨[n, 0], t⟩ := by
  cases targets with
  | labels given =>
    refine .inl (fits_of_softmaxCrossEntropy hok fun hsize => hw ?_)
    exact (congrArg Nat.cast hsize).trans Nat.cast_zero
  | distributions given =>
    obtain ⟨n, d, x, t, rfl, rfl⟩ := exists_of_softLabelCrossEntropy hok
    by_cases hd : d = 0
    · subst hd
      exact .inr ⟨n, x, t, rfl, rfl⟩
    · exact .inl ⟨_, .distributions hd⟩
  | pixels given weights => exact .inl (fits_of_spatialSoftmaxCrossEntropy hok)

theorem softLabelCrossEntropy_classless {n : Nat} (x t : Vector F (Shape.size [n, 0])) :
    ∃ p, Reference.softLabelCrossEntropy ⟨[n, 0], x⟩ ⟨[n, 0], t⟩ = .ok (p, 0) := by
  have hloss : Reference.distributionLoss (Reference.byClass x) (Reference.byClass t) = 0 := by
    simp [Reference.distributionLoss, foldl_fixed]
  exact ⟨_, hloss ▸ softLabelCrossEntropy_eq x t⟩

end CrossEntropy
