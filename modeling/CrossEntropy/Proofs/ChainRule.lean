import CrossEntropy.Proofs.Index
import CrossEntropy.Proofs.Jacobian
import CrossEntropy.Proofs.Labels

/-!
# The chain rule

The loss operation has a gradient for each output. The one of the average loss is a closed form for
each kind of targets; the one of the probabilities serves any objective. In exact arithmetic the
first is the second for the objective that is the average loss.

* `Targets.demand`, `Targets.totalWeight`: what targets ask of a class at a location, by index;
* `Targets.averageDerivative`: the derivative of the average of `-ln p` by the probabilities `p`;
* `Supervision.demand`, **`get_gradient`**: one closed form for the three gradients;
* **`lossBackward_eq_probabilitiesBackward`**: both ways to the gradient lead to the same.
-/

namespace CrossEntropy

open Scalar Precision

/-! ## The derivative of the average loss -/

section Derivative

variable {F : Type} [ExactScalar F]

/-- The weight at a location, one where no weights are given. -/
def weightAt (weights : Option (Tensor F)) (location : List Nat) : F :=
  match weights with
  | none => 1
  | some weights => (weights.at? location).getD 0

/-- What targets ask of class `c` at a location: its weight if the label is `c`, and nothing if it
is another, or the target for `c`. -/
def Targets.demand (location : List Nat) (c : Nat) : Targets F → F
  | labels given => if (given.at? location).map Int32.toInt = some (c : Int) then 1 else 0
  | distributions given => (given.at? (location ++ [c])).getD 0
  | pixels given weights =>
    if (given.at? location).map Int32.toInt = some (c : Int) then weightAt weights location else 0

/-- The number of rows, or the weight of all locations that are not ignored. -/
def Targets.totalWeight : Targets F → F
  | labels given => given.size
  | distributions given => (given.shape.headD 0 : Nat)
  | pixels given weights => ∑ k : Fin given.size,
    if given.entries.get k = ignoredLabel then 0 else weightAt weights (given.index k)

/-- `g` times the derivative of the average of `-ln p` by the probabilities `p`. The second index
of an entry is its class, the others are its location. -/
def Targets.averageDerivative (targets : Targets F) (g : F) (p : Tensor F) : Tensor F where
  shape := p.shape
  entries := Vector.ofFn fun k =>
    -(g * targets.demand ((p.index k).eraseIdx 1) ((p.index k).getD 1 0)) /
      (targets.totalWeight * p.entries.get k)

end Derivative

/-! ## Gradients of a lane -/

section Lane

variable {F : Type} [ExactScalar F] {n d : Nat}

/-- **The chain rule in one lane**: where the objective has derivative `-(a * t) / (w * p)` by the
probabilities, it has derivative `a / w * (p * Σ t - t)` by the scores. -/
theorem softmaxBackwardLane_of_demand {p g : Vector F d} {a w : F} {t : Fin d → F}
    (hp : ∀ i, p.get i ≠ 0) (hg : ∀ i, g.get i = -(a * t i) / (w * p.get i)) (j : Fin d) :
    (softmaxBackwardLane p g).get j = a / w * (p.get j * ∑ i, t i - t j) := by
  have hterm (i : Fin d) : p.get i * g.get i = -(a / w * t i) := by
    rw [hg, mul_comm w, mul_div_assoc', mul_div_mul_left _ _ (hp i)]
    ring
  have hsum : ∑ i, p.get i * g.get i = -(a / w * ∑ i, t i) := by
    rw [Finset.sum_congr rfl fun i _ => hterm i, Finset.sum_neg_distrib, Finset.mul_sum]
  rw [get_softmaxBackwardLane, hsum, mul_sub, hterm]
  ring

/-- What targets of lanes ask of a class. -/
def Supervision.demand (l : Fin n) (c : Fin d) : Supervision F n d → F
  | labels classes => if c = classes.get l then 1 else 0
  | distributions targets => (targets.get l).get c
  | pixels marks =>
    match marks.get l with
    | none => 0
    | some (m, weight) => if c = m then weight else 0

theorem demand_pixels (marks : Vector (Option (Fin d)) n) (weights : Option (Vector F n))
    (l : Fin n) (c : Fin d) :
    (Supervision.pixels (weighMarks marks weights)).demand l c =
      if marks.get l = some c then weightOf weights l else 0 := by
  simp only [Supervision.demand, get_weighMarks]
  cases marks.get l with
  | none => rfl
  | some m => simp only [Option.map_some, Option.some_inj, eq_comm]

/-- **One closed form for the gradients of every kind of targets.** -/
theorem get_gradient (s : Supervision F n d) (scale : F) (p : Vector (Vector F d) n) (l : Fin n)
    (c : Fin d) :
    ((s.gradient scale p).get l).get c =
      scale * ((p.get l).get c * ∑ j, s.demand l j - s.demand l c) := by
  cases s with
  | labels classes =>
    simp only [Supervision.gradient, Supervision.demand, get_zipWith, labelGradient,
      Vector.get_ofFn, Finset.sum_ite_eq', Finset.mem_univ, if_true]
    split_ifs <;> ring
  | distributions targets =>
    simp only [Supervision.gradient, Supervision.demand, get_zipWith, distributionGradient,
      total_eq_sum]
    ring
  | pixels marks =>
    simp only [Supervision.gradient, Supervision.demand, get_zipWith]
    cases marks.get l with
    | none =>
      simp [markGradient]
    | some mark =>
      obtain ⟨m, weight⟩ := mark
      simp only [markGradient, Vector.get_ofFn, Finset.sum_ite_eq', Finset.mem_univ, if_true]
      split_ifs <;> ring

end Lane

/-! ## Lanes of locations -/

section Locations

variable {F : Type} [ExactScalar F]

variable {targets : Targets F} {shape : Shape} {f : Fitted F shape}

theorem label_at?_iff (given : Tensor Int32) (k : Fin given.size) (c : Nat) :
    (given.at? (given.index k)).map Int32.toInt = some (c : Int) ↔
      (given.entries.get k).toInt = c := by
  rw [Tensor.at?_index, Option.map_some, Option.some_inj]

theorem foldl_marks {d : Nat} {labels : Tensor Int32} {marks : Vector (Option (Fin d)) labels.size}
    (hread : readLabels d (markOf? d) labels = .ok marks) (weight : Fin labels.size → F) :
    Fin.foldl labels.size (fun total k => match marks.get k with
      | none => total
      | some _ => total + weight k) 0 =
      ∑ k, if labels.entries.get k = ignoredLabel then 0 else weight k := by
  rw [← zero_add (∑ k, _), ← foldl_add_eq_sum]
  refine foldl_congr (fun total k => ?_) 0
  have hmark := read_get hread k
  cases hm : marks.get k with
  | none =>
    rw [hm, markOf?_eq_some_none_iff] at hmark
    rw [if_pos hmark, add_zero]
  | some m =>
    have hne : labels.entries.get k ≠ ignoredLabel := by
      rw [Ne, ← markOf?_eq_some_none_iff (d := d), hmark, hm]
      simp
    rw [if_neg hne]

theorem weightAt_index {shape : Shape} (weights : Option (Vector F (Shape.size shape)))
    (k : Fin (Shape.size shape)) :
    weightAt (weights.map (Tensor.mk shape)) (Shape.unravel shape k) = weightOf weights k := by
  cases weights with
  | none => rfl
  | some weights => exact congrArg (Option.getD · 0) (Tensor.at?_index ⟨shape, weights⟩ k)

theorem totalWeight_pixels {shape : Shape} (given : Vector Int32 (Shape.size shape))
    (weights : Option (Vector F (Shape.size shape))) :
    (Targets.pixels ⟨shape, given⟩ (weights.map (Tensor.mk shape))).totalWeight =
      ∑ k, if given.get k = ignoredLabel then 0 else weightOf weights k :=
  Finset.sum_congr rfl fun k _ => if_congr Iff.rfl rfl (weightAt_index weights k)

theorem demand_eq (hf : Fits targets shape f) (l : Fin f.split.count) (c : Fin f.split.classes) :
    targets.demand ((Shape.unravel shape (f.split.entry l c)).eraseIdx 1)
      ((Shape.unravel shape (f.split.entry l c)).getD 1 0) = f.supervision.demand l c := by
  cases hf with
  | @labels n d entries classes hd hread =>
    have hiff := (label_at?_iff ⟨[n], entries⟩ l c).trans (toInt_eq_iff_class hread l c)
    refine (congrArg₂ (Targets.demand · · _) (location_entry l c) (class_entry l c)).trans ?_
    exact if_congr hiff rfl rfl
  | @distributions n d entries hd =>
    refine Eq.trans ?_ ((Split.classAxis n d []).get_lanes entries l c).symm
    have hat := (congrArg (Tensor.at? ⟨[n, d], entries⟩) (location_append_class l c)).trans
      (Tensor.at?_index ⟨[n, d], entries⟩ ((Split.classAxis n d []).entry l c))
    exact congrArg (Option.getD · 0) hat
  | @pixels n d h w entries marks weights hd hread =>
    have hiff := (label_at?_iff ⟨[n, h, w], entries⟩ l c).trans (toInt_eq_iff_mark hread l c)
    refine (congrArg₂ (Targets.demand · · _) (location_entry l c) (class_entry l c)).trans ?_
    refine Eq.trans ?_ (demand_pixels marks weights l c).symm
    exact if_congr hiff (weightAt_index weights l) rfl

theorem totalWeight_eq {x : Tensor F} {f : Fitted F x.shape} (hf : Fits targets x.shape f) :
    targets.totalWeight = (f.totals : Totals F).weight := by
  obtain ⟨shape, x⟩ := x
  cases hf with
  | @labels n d entries classes hd hread =>
    exact (ExactScalar.ofNat_eq_cast _).symm
  | @distributions n d entries hd =>
    refine Eq.trans ?_ (ExactScalar.ofNat_eq_cast _).symm
    exact congrArg Nat.cast (Nat.mul_one n).symm
  | @pixels n d h w entries marks weights hd hread =>
    refine Eq.trans ?_ (pixels_weight _ marks weights).symm
    refine Eq.trans ?_ (foldl_marks hread (weightOf weights)).symm
    refine Finset.sum_congr rfl fun k _ => ?_
    exact if_congr Iff.rfl rfl (weightAt_index weights k)

/-- The gradient by index is, lane by lane, the derivative of the average loss. -/
theorem get_averageDerivative {x : Tensor F} {f : Fitted F x.shape} (hf : Fits targets x.shape f)
    (g : F) (l : Fin f.split.count) (c : Fin f.split.classes) :
    (targets.averageDerivative g (f.tensor f.probabilities)).entries.get (f.split.entry l c) =
      -(g * f.supervision.demand l c) / (f.totals.weight * (f.probabilities.get l).get c) := by
  unfold Targets.averageDerivative
  refine (Vector.get_ofFn ..).trans ?_
  have hp := f.split.get_join_entry f.probabilities l c
  rw [totalWeight_eq hf]
  exact congrArg₂ (· / ·) (congrArg (fun t => -(g * t)) (demand_eq hf l c)) (congrArg (_ * ·) hp)

end Locations

/-! ## Two ways to the gradient -/

section Gradient

variable {F : Type} [ExactScalar F] {targets : Targets F}

theorem softmaxBackwardLanes_averageDerivative {scores : Tensor F} {f : Fitted F scores.shape}
    (hf : Fits targets scores.shape f) (hp : ∀ l c, (f.probabilities.get l).get c ≠ 0) (g : F) :
    softmaxBackwardLanes f.probabilities (f.split.lanes
      (targets.averageDerivative g (f.tensor f.probabilities)).entries) =
      f.supervision.gradient (g / (f.totals : Totals F).weight) f.probabilities := by
  refine ext_get fun l => ext_get fun c => ?_
  have hderivative (i : Fin f.split.classes) := (f.split.get_lanes _ l i).trans
    (get_averageDerivative hf g l i)
  rw [get_gradient, softmaxBackwardLanes, get_zipWith]
  exact softmaxBackwardLane_of_demand (hp l) hderivative c

/-- **The two backward passes obey the chain rule**: the gradient of the average loss by the scores
is the one of the probabilities for the derivative of the average loss by the probabilities. -/
theorem lossBackward_eq_probabilitiesBackward {scores p loss outGradient : Tensor F} {g : F}
    (hforward : (softmaxWithLoss targets).forward scores = .ok [p, loss])
    (hp : ∀ k, p.entries.get k ≠ 0) (hg : onlyEntry outGradient = .ok g) :
    ∃ gradient, (softmaxWithLoss targets).backward outGradient scores 1 = .ok gradient ∧
      (softmaxWithLoss targets).backward (targets.averageDerivative g p) scores 0 =
        .ok gradient := by
  obtain ⟨f, hf, houtputs⟩ := forward_eq_ok_iff.mp hforward
  cases houtputs
  have hlane (l : Fin f.split.count) (c : Fin f.split.classes) :
      (f.probabilities.get l).get c ≠ 0 := by
    rw [← f.split.get_join_entry]
    exact hp _
  refine ⟨_, lossBackward_eq hf hg, (probabilitiesBackward_eq hf _).trans ?_⟩
  exact congrArg (fun lanes => Except.ok (f.tensor lanes))
    (softmaxBackwardLanes_averageDerivative hf hlane g)

/-- Two pixels, one of them ignored, the other of weight three. -/
theorem lossBackward_eq_probabilitiesBackward_ignored :
    letI := ExactScalar.rational
    let targets : Targets ℚ := .pixels ⟨[1, 1, 2], #v[0, -1]⟩ (some ⟨[1, 1, 2], #v[3, 5]⟩)
    let scores : Tensor ℚ := ⟨[1, 2, 1, 2], #v[1, 2, 3, 4]⟩
    let p : Tensor ℚ := ⟨[1, 2, 1, 2], #v[5/6, 5/6, 1/6, 1/6]⟩
    ∃ gradient, (softmaxWithLoss targets).backward (Tensor.scalar 2) scores 1 = .ok gradient ∧
      (softmaxWithLoss targets).backward (targets.averageDerivative 2 p) scores 0 =
        .ok gradient :=
  letI := ExactScalar.rational
  have hforward :
      (softmaxWithLoss (.pixels ⟨[1, 1, 2], #v[0, -1]⟩ (some ⟨[1, 1, 2], #v[3, 5]⟩))).forward
        (⟨[1, 2, 1, 2], #v[1, 2, 3, 4]⟩ : Tensor ℚ) =
          .ok [⟨[1, 2, 1, 2], #v[5/6, 5/6, 1/6, 1/6]⟩, Tensor.scalar (1/6)] := by
    decide +kernel
  lossBackward_eq_probabilitiesBackward hforward (by decide +kernel) (by decide +kernel)

end Gradient

end CrossEntropy
