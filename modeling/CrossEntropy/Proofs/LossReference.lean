import CrossEntropy.Proofs.Exact
import CrossEntropy.Proofs.Fits
import CrossEntropy.Proofs.Places
import CrossEntropy.Proofs.SoftmaxReference

/-!
# Losses against their references

The loss operation folds over lanes, its references over explicit indices, and they count weights in
different ways. In exact arithmetic both compute the same probabilities and the same average loss.

* `Targets.reference`: the reference for targets of each kind;
* `softmaxCrossEntropy_eq`, `softLabelCrossEntropy_eq`: the references for labels and distributions;
* `spatialSoftmaxCrossEntropy_eq_bind`, `spatialSoftmaxCrossEntropy_weighted`: that for pixels;
* `fits_of_softmaxCrossEntropy`, `exists_of_softLabelCrossEntropy`,
  `fits_of_spatialSoftmaxCrossEntropy`: what they accept;
* `labels_average`, `distributions_average`, `pixels_average`: total loss over total weight;
* **`reference_of_forward`**: what the operation accepts its reference accepts, with equal outputs.
-/

namespace CrossEntropy

open Scalar Precision

/-- The reference for targets of each kind. -/
def Targets.reference {A : Type} [Scalar A] (scores : Tensor A) :
    Targets A → Except ShapeError (Tensor A × A)
  | labels given => Reference.softmaxCrossEntropy scores given
  | distributions given => Reference.softLabelCrossEntropy scores given
  | pixels given weights => Reference.spatialSoftmaxCrossEntropy scores given weights

/-! ## Probabilities -/

section Probabilities

variable {A : Type} [Scalar A]

theorem softmaxMatrix_eq_tensor {n d : Nat} (x : Vector A (Shape.size [n, d])) :
    Reference.softmaxMatrix (Reference.byClass x) =
      (Split.classAxis n d []).join (softmaxLanes ((Split.classAxis n d []).lanes x)) :=
  softmaxMatrix_eq_join (s := Split.classAxis n d []) rfl rfl x

theorem get_softmaxImages {n d h w : Nat} (x : Fin n → Fin d → Fin h → Fin w → A)
    {k : Fin (Shape.size [n, d, h, w])} {i : Fin n} {c : Fin d} {y : Fin h} {v : Fin w}
    (hk : k.val = ((i * d + c) * h + y) * w + v) :
    (Reference.softmaxImages x).get k = Reference.probability (fun c => x i c y v) c := by
  obtain ⟨hdivw, hmodw⟩ := Split.quotient_remainder (q := (i * d + c) * h + y) v.isLt
  obtain ⟨hdivh, hmodh⟩ := Split.quotient_remainder (q := i * d + c) y.isLt
  obtain ⟨hdivd, hmodd⟩ := Split.quotient_remainder (q := i) c.isLt
  unfold Reference.softmaxImages
  rw [Vector.get_ofFn]
  simp only [hk, hdivw, hmodw, hdivh, hmodh, hdivd, hmodd]

theorem softmaxImages_eq_tensor {n d h w : Nat} (x : Vector A (Shape.size [n, d, h, w])) :
    Reference.softmaxImages (Reference.byChannel x) =
      (Split.classAxis n d [h, w]).join (softmaxLanes ((Split.classAxis n d [h, w]).lanes x)) := by
  refine (Split.classAxis n d [h, w]).ext_entry fun l c => ?_
  obtain ⟨i, y, v, rfl⟩ := exists_pixelLane l
  rw [Split.get_join_entry]
  exact (get_softmaxImages _ (entry_pixelLane i c y v)).trans (get_softmax_pixelLane x i y v c).symm

theorem softmaxCrossEntropy_eq {n d : Nat} {labels : Vector Int32 (Shape.size [n])}
    {classes : Vector (Fin d) (Shape.size [n])}
    (hread : readLabels d (classOf? d) ⟨[n], labels⟩ = .ok classes)
    (x : Vector A (Shape.size [n, d])) :
    Reference.softmaxCrossEntropy ⟨[n, d], x⟩ ⟨[n], labels⟩ =
      .ok (⟨[n, d], Reference.softmaxMatrix (Reference.byClass x)⟩,
        Reference.labelLoss (Reference.byClass x) (Reference.byRow classes)) := by
  unfold Reference.softmaxCrossEntropy
  simp only [bind_eq_ok_iff, expectShape_eq_ok_iff]
  exact ⟨_, rfl, _, hread, rfl⟩

theorem softLabelCrossEntropy_eq {n d : Nat} (x targets : Vector A (Shape.size [n, d])) :
    Reference.softLabelCrossEntropy ⟨[n, d], x⟩ ⟨[n, d], targets⟩ =
      .ok (⟨[n, d], Reference.softmaxMatrix (Reference.byClass x)⟩,
        Reference.distributionLoss (Reference.byClass x) (Reference.byClass targets)) := by
  unfold Reference.softLabelCrossEntropy
  simp only [bind_eq_ok_iff, expectShape_eq_ok_iff]
  exact ⟨_, rfl, rfl⟩

theorem expectPixelWeights_eq_bind (d : Nat) {n h w : Nat} (weights : Option (Tensor A)) :
    Reference.expectPixelWeights n h w weights =
      expectWeights [n, h, w] weights >>= fun weights =>
        .ok fun i y v => weightOf weights (pixelLane (d := d) i y v) := by
  cases weights with
  | none => rfl
  | some weights =>
    show (weights.expectShape "weights" [n, h, w] >>= fun v => .ok (Reference.byPixel v)) =
      (weights.expectShape "weights" [n, h, w] >>= fun v => .ok (some v)) >>= _
    cases weights.expectShape "weights" [n, h, w] <;> rfl

/-- The reference for pixels, with weights by lane as the operation has them. -/
theorem spatialSoftmaxCrossEntropy_eq_bind {n d h w : Nat} (x : Vector A (Shape.size [n, d, h, w]))
    (labels : Tensor Int32) (weights : Option (Tensor A)) :
    Reference.spatialSoftmaxCrossEntropy ⟨[n, d, h, w], x⟩ labels weights =
      labels.expectShape "labels" [n, h, w] >>= fun entries =>
        expectWeights [n, h, w] weights >>= fun weights =>
          if d = 0 then .error (.noClasses [n, d, h, w])
          else readLabels d (markOf? d) ⟨[n, h, w], entries⟩ >>= fun marks =>
            .ok (⟨[n, d, h, w], Reference.softmaxImages (Reference.byChannel x)⟩,
              Reference.pixelLoss (Reference.byChannel x) (Reference.byPixel marks)
                fun i y v => weightOf weights (pixelLane (d := d) i y v)) := by
  unfold Reference.spatialSoftmaxCrossEntropy
  refine congrArg (_ >>= ·) (funext fun entries => ?_)
  rw [expectPixelWeights_eq_bind d]
  cases expectWeights [n, h, w] weights with
  | error e => rfl
  | ok weights =>
    show (if d = 0 then _ else _) = if d = 0 then _ else _
    split_ifs <;> rfl

theorem spatialSoftmaxCrossEntropy_weighted {n d h w : Nat}
    {labels : Vector Int32 (Shape.size [n, h, w])}
    {marks : Vector (Option (Fin d)) (Shape.size [n, h, w])} (hd : d ≠ 0)
    (hread : readLabels d (markOf? d) ⟨[n, h, w], labels⟩ = .ok marks)
    (weights : Option (Vector A (Shape.size [n, h, w])))
    (x : Vector A (Shape.size [n, d, h, w])) :
    Reference.spatialSoftmaxCrossEntropy ⟨[n, d, h, w], x⟩ ⟨[n, h, w], labels⟩
        (weights.map (Tensor.mk [n, h, w])) =
      .ok (⟨[n, d, h, w], Reference.softmaxImages (Reference.byChannel x)⟩,
        Reference.pixelLoss (Reference.byChannel x) (Reference.byPixel marks)
          fun i y v => weightOf weights (pixelLane (d := d) i y v)) := by
  rw [spatialSoftmaxCrossEntropy_eq_bind]
  simp only [bind_eq_ok_iff, expectShape_eq_ok_iff, expectWeights_eq_ok_iff]
  refine ⟨_, rfl, weights, rfl, ?_⟩
  rw [if_neg hd, bind_eq_ok_iff]
  exact ⟨_, hread, rfl⟩

theorem fits_of_softmaxCrossEntropy {scores : Tensor A} {labels : Tensor Int32}
    {result : Tensor A × A} (hok : Reference.softmaxCrossEntropy scores labels = .ok result)
    (hlabels : labels.size ≠ 0) : ∃ f, Fits (.labels labels : Targets A) scores.shape f := by
  obtain ⟨shape, x⟩ := scores
  match shape with
  | [n, d] =>
    unfold Reference.softmaxCrossEntropy at hok
    simp only [bind_eq_ok_iff, expectShape_eq_ok_iff] at hok
    obtain ⟨entries, rfl, classes, hread, -⟩ := hok
    have hd : d ≠ 0 := Nat.ne_zero_of_lt (classes.get ⟨0, Nat.pos_of_ne_zero hlabels⟩).isLt
    exact ⟨_, .labels hd hread⟩
  | [] | [_] | _ :: _ :: _ :: _ => cases hok

theorem exists_of_softLabelCrossEntropy {scores targets : Tensor A} {result : Tensor A × A}
    (hok : Reference.softLabelCrossEntropy scores targets = .ok result) :
    ∃ (n d : Nat) (x t : Vector A (Shape.size [n, d])),
      scores = ⟨[n, d], x⟩ ∧ targets = ⟨[n, d], t⟩ := by
  obtain ⟨shape, x⟩ := scores
  match shape with
  | [n, d] =>
    unfold Reference.softLabelCrossEntropy at hok
    simp only [bind_eq_ok_iff, expectShape_eq_ok_iff] at hok
    obtain ⟨t, rfl, -⟩ := hok
    exact ⟨n, d, x, t, rfl, rfl⟩
  | [] | [_] | _ :: _ :: _ :: _ => cases hok

theorem fits_of_spatialSoftmaxCrossEntropy {scores : Tensor A} {labels : Tensor Int32}
    {weights : Option (Tensor A)} {result : Tensor A × A}
    (hok : Reference.spatialSoftmaxCrossEntropy scores labels weights = .ok result) :
    ∃ f, Fits (.pixels labels weights) scores.shape f := by
  obtain ⟨shape, x⟩ := scores
  match shape with
  | [n, d, h, w] =>
    simp only [spatialSoftmaxCrossEntropy_eq_bind, bind_eq_ok_iff, expectShape_eq_ok_iff,
      expectWeights_eq_ok_iff] at hok
    obtain ⟨entries, rfl, v, rfl, hok⟩ := hok
    split_ifs at hok with hd
    obtain ⟨marks, hread, -⟩ := bind_eq_ok_iff.mp hok
    exact ⟨_, .pixels hd hread⟩
  | [] | [_] | [_, _] | [_, _, _] | _ :: _ :: _ :: _ :: _ :: _ => cases hok

theorem spatialSoftmaxCrossEntropy_eq {n d h w : Nat} {labels : Vector Int32 (Shape.size [n, h, w])}
    {marks : Vector (Option (Fin d)) (Shape.size [n, h, w])} (hd : d ≠ 0)
    (hread : readLabels d (markOf? d) ⟨[n, h, w], labels⟩ = .ok marks)
    (x : Vector A (Shape.size [n, d, h, w])) :
    Reference.spatialSoftmaxCrossEntropy ⟨[n, d, h, w], x⟩ ⟨[n, h, w], labels⟩ none =
      .ok (⟨[n, d, h, w], Reference.softmaxImages (Reference.byChannel x)⟩,
        Reference.pixelLoss (Reference.byChannel x) (Reference.byPixel marks) fun _ _ _ => 1) :=
  spatialSoftmaxCrossEntropy_weighted hd hread none x

end Probabilities

/-! ## Totals as folds over lanes -/

section Folds

variable {S D : Type} [Scalar S] [Scalar D] [Precision S D] {n d : Nat}
  (p : Vector (Vector S d) n)

theorem labels_loss (classes : Vector (Fin d) n) :
    (Supervision.totals p (.labels classes) : Totals D).loss =
      Fin.foldl n (fun loss l => loss + -classLog (p.get l) (classes.get l)) (-0) := by
  simp only [Supervision.totals, foldl_eq, get_zipWith]

theorem distributions_loss (targets : Vector (Vector S d) n) :
    (Supervision.totals p (.distributions targets) : Totals D).loss =
      Fin.foldl n (fun loss l => lessWeightedLogs loss (targets.get l) (p.get l)) 0 := by
  simp only [Supervision.totals, foldl_eq, get_zipWith]

theorem lessWeightedLogs_eq (start : D) (targets q : Vector S d) :
    lessWeightedLogs start targets q = Fin.foldl d
      (fun loss c => loss - widen (targets.get c * logProbability (q.get c))) start := by
  simp only [lessWeightedLogs, foldl_eq, get_zipWith]

theorem pixels_loss (marks : Vector (Option (Fin d)) n) (weights : Option (Vector S n)) :
    (Supervision.totals p (.pixels (weighMarks marks weights)) : Totals D).loss =
      Fin.foldl n (fun loss l => match marks.get l with
        | none => loss
        | some c => loss - widen (weightOf weights l) * classLog (p.get l) c) 0 := by
  simp only [Supervision.totals, foldl_eq, get_zipWith, get_weighMarks]
  refine foldl_congr (fun loss l => ?_) 0
  cases marks.get l <;> rfl

end Folds

/-! ## Totals in exact arithmetic -/

section Totals

variable {F : Type} [ExactScalar F] {n d h w : Nat}

theorem rowCount_eq (n : Nat) : (Reference.rowCount n : F) = n := by
  rw [Reference.rowCount, foldl_add_eq_sum, zero_add, Finset.sum_const, Finset.card_univ,
    Fintype.card_fin, nsmul_one]

theorem ofNat_count_eq (n d : Nat) :
    (Scalar.ofNat (Split.classAxis n d []).count : F) = Reference.rowCount n :=
  calc (Scalar.ofNat (Split.classAxis n d []).count : F)
      = ((n * 1 : Nat) : F) := ExactScalar.ofNat_eq_cast _
    _ = Reference.rowCount n := by rw [Nat.mul_one, rowCount_eq]

theorem labels_average (x : Vector F (Shape.size [n, d]))
    (classes : Vector (Fin d) (Split.classAxis n d []).count) :
    let totals : Totals F :=
      Supervision.totals (softmaxLanes ((Split.classAxis n d []).lanes x)) (.labels classes)
    totals.loss / totals.weight =
      Reference.labelLoss (Reference.byClass x) (fun i => classes.get (rowLane (d := d) i)) := by
  refine congrArg₂ (· / ·) ?_ (ofNat_count_eq n d)
  refine (labels_loss _ classes).trans ((foldl_rowLane _ _).trans ?_)
  rw [neg_zero]
  refine foldl_congr (fun loss i => ?_) 0
  rw [sub_eq_add_neg]
  exact congrArg (fun p => loss + -logProbability p) (get_softmax_rowLane x i _)

theorem distributions_average (x targets : Vector F (Shape.size [n, d])) :
    let s := Split.classAxis n d []
    let totals : Totals F :=
      Supervision.totals (softmaxLanes (s.lanes x)) (.distributions (s.lanes targets))
    totals.loss / totals.weight =
      Reference.distributionLoss (Reference.byClass x) (Reference.byClass targets) := by
  refine congrArg₂ (· / ·) ?_ (ofNat_count_eq n d)
  refine (distributions_loss _ _).trans ((foldl_rowLane _ _).trans ?_)
  refine foldl_congr (fun loss i => ?_) 0
  refine (lessWeightedLogs_eq _ _ _).trans (foldl_congr (fun loss j => ?_) loss)
  have ht := (Split.get_lanes _ targets (rowLane i) j).trans (get_entry_rowLane targets i j)
  exact congrArg₂ (fun t p => loss - t * logProbability p) ht (get_softmax_rowLane x i j)

theorem pixels_average (x : Vector F (Shape.size [n, d, h, w]))
    (marks : Vector (Option (Fin d)) (Split.classAxis n d [h, w]).count)
    (weights : Option (Vector F (Split.classAxis n d [h, w]).count)) :
    let totals : Totals F := Supervision.totals
      (softmaxLanes ((Split.classAxis n d [h, w]).lanes x)) (.pixels (weighMarks marks weights))
    totals.loss / totals.weight =
      Reference.pixelLoss (Reference.byChannel x)
        (fun i y v => marks.get (pixelLane (d := d) i y v))
        (fun i y v => weightOf weights (pixelLane (d := d) i y v)) := by
  have hloss (loss : F) (i : Fin n) (y : Fin h) (v : Fin w) : ∀ mark : Option (Fin d),
      (match mark with
      | none => loss
      | some c => loss - widen (weightOf weights (pixelLane (d := d) i y v)) * classLog
          ((softmaxLanes ((Split.classAxis n d [h, w]).lanes x)).get (pixelLane i y v)) c) =
      match mark with
      | none => loss
      | some c => loss - Reference.logarithm
          (Reference.probability (fun k => Reference.byChannel x i k y v) c) *
            weightOf weights (pixelLane (d := d) i y v)
    | none => rfl
    | some c => by
      refine congrArg (loss - ·) ((mul_comm _ _).trans ?_)
      exact congrArg (fun p => logProbability p * _) (get_softmax_pixelLane x i y v c)
  refine congrArg₂ (· / ·) ?_ ?_
  · refine (pixels_loss _ _ _).trans ((foldl_pixelLane _ _).trans ?_)
    refine congrArg (fun f => Reference.foldPixels f 0) ?_
    funext loss i y v
    exact hloss loss i y v _
  · exact (pixels_weight _ _ _).trans (foldl_pixelLane _ _)

end Totals

/-! ## The references accept what the operation accepts -/

section Accept

variable {F : Type} [ExactScalar F]

theorem expectPixelWeights_eq {n d h w : Nat} (weights : Option (Vector F (Shape.size [n, h, w]))) :
    Reference.expectPixelWeights n h w (weights.map (Tensor.mk [n, h, w])) =
      .ok fun i y v => weightOf weights (pixelLane (d := d) i y v) := by
  rw [expectPixelWeights_eq_bind d, expectWeights_eq_ok_iff.mpr rfl]
  rfl

/-- **What the loss operation accepts its reference accepts**, and the two agree on probabilities
and average loss. -/
theorem reference_of_forward {targets : Targets F} {scores : Tensor F} {outputs : List (Tensor F)}
    (hforward : (softmaxWithLoss targets).forward scores = .ok outputs) :
    ∃ probabilities loss, targets.reference scores = .ok (probabilities, loss) ∧
      outputs = [probabilities, Tensor.scalar loss] := by
  obtain ⟨f, hf, rfl⟩ := forward_eq_ok_iff.mp hforward
  obtain ⟨shape, x⟩ := scores
  cases hf with
  | @labels n d entries classes hd hread =>
    refine ⟨_, _, ?_, rfl⟩
    unfold Targets.reference Reference.softmaxCrossEntropy
    simp only [bind_eq_ok_iff, expectShape_eq_ok_iff]
    refine ⟨_, rfl, _, hread, ?_⟩
    refine congrArg Except.ok (congrArg₂ Prod.mk ?_ (labels_average x classes).symm)
    exact congrArg (Tensor.mk [n, d]) (softmaxMatrix_eq_tensor x)
  | @distributions n d entries hd =>
    refine ⟨_, _, ?_, rfl⟩
    unfold Targets.reference Reference.softLabelCrossEntropy
    simp only [bind_eq_ok_iff, expectShape_eq_ok_iff]
    refine ⟨_, rfl, ?_⟩
    refine congrArg Except.ok (congrArg₂ Prod.mk ?_ (distributions_average x entries).symm)
    exact congrArg (Tensor.mk [n, d]) (softmaxMatrix_eq_tensor x)
  | @pixels n d h w entries marks weights hd hread =>
    refine ⟨_, _, ?_, rfl⟩
    unfold Targets.reference Reference.spatialSoftmaxCrossEntropy
    simp only [bind_eq_ok_iff, expectShape_eq_ok_iff]
    refine ⟨_, rfl, _, expectPixelWeights_eq (d := d) weights, ?_⟩
    rw [if_neg hd, bind_eq_ok_iff]
    refine ⟨_, hread, ?_⟩
    refine congrArg Except.ok (congrArg₂ Prod.mk ?_ (pixels_average x marks weights).symm)
    exact congrArg (Tensor.mk [n, d, h, w]) (softmaxImages_eq_tensor x)

/-- Two pixels, one of them ignored, the other of weight three. -/
theorem reference_of_forward_ignored :
    letI := ExactScalar.rational
    let targets : Targets ℚ := .pixels ⟨[1, 1, 2], #v[0, -1]⟩ (some ⟨[1, 1, 2], #v[3, 5]⟩)
    ∃ probabilities loss,
      targets.reference ⟨[1, 2, 1, 2], #v[1, 2, 3, 4]⟩ = .ok (probabilities, loss) ∧
        [⟨[1, 2, 1, 2], #v[5/6, 5/6, 1/6, 1/6]⟩, Tensor.scalar (1/6)] =
          [probabilities, Tensor.scalar loss] :=
  letI := ExactScalar.rational
  reference_of_forward (F := ℚ) (by decide +kernel)

end Accept

end CrossEntropy
