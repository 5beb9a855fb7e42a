import CrossEntropy.Proofs.Labels
import CrossEntropy.Proofs.LossReference

/-!
# Pixels of weight zero

To ignore a location is to give it no weight. Totals and gradients pass over an ignored location and
add a zero for one of weight zero, which is the same in a commutative ring. Nothing is asked of the
division by the total weight, so that this includes the case in which no weight is left.

* `Tensor.fill`, `zeroWeights`: labels and weights that are changed at some locations;
* `ignoreMarks`, `zeroLanes`, `readLabels_fill`, `zeroWeights_eq`: what becomes of them by lane;
* `CountsAlike`, `ignoreMarks_countsAlike`: a lane under both changes;
* `gradient_countsAlike`, `totals_countsAlike`, `pixelLoss_countsAlike`: the loops over locations;
* `Operation.SameOn`: two operations with the same outputs and the same gradient of the loss;
* **`ignored_eq_weightless`**: the operation and its reference on both changes.
-/

namespace CrossEntropy

open Scalar Precision

/-- The tensor with one entry at all the given places. -/
def Tensor.fill {α : Type} (places : List Nat → Prop) [DecidablePred places] (a : α)
    (x : Tensor α) : Tensor α :=
  ⟨x.shape, Vector.ofFn fun k => if places (x.index k) then a else x.entries.get k⟩

/-- The weights of locations, one where no weights are given, set to zero at the given places. -/
def zeroWeights {S : Type} [Scalar S] (shape : Shape) (places : List Nat → Prop)
    [DecidablePred places] (weights : Option (Tensor S)) : Tensor S :=
  (weights.getD ⟨shape, Vector.replicate _ 1⟩).fill places 0

/-! ## Changes by lane -/

section Lanes

variable {shape : Shape} (places : List Nat → Prop) [DecidablePred places]

/-- The marks of labels that are replaced by the ignored one at some places. -/
def ignoreMarks {d : Nat} (marks : Vector (Option (Fin d)) (Shape.size shape)) :
    Vector (Option (Fin d)) (Shape.size shape) :=
  Vector.ofFn fun l => if places (shape.unravel l) then none else marks.get l

/-- The weights of lanes, set to zero at some places. -/
def zeroLanes {S : Type} [Scalar S] (weights : Option (Vector S (Shape.size shape))) :
    Vector S (Shape.size shape) :=
  Vector.ofFn fun l => if places (shape.unravel l) then 0 else weightOf weights l

theorem get_ignoreMarks {d : Nat} (marks : Vector (Option (Fin d)) (Shape.size shape))
    (l : Fin (Shape.size shape)) : (ignoreMarks places marks).get l =
      if places (shape.unravel l) then none else marks.get l :=
  Vector.get_ofFn ..

theorem get_zeroLanes {S : Type} [Scalar S] (weights : Option (Vector S (Shape.size shape)))
    (l : Fin (Shape.size shape)) : (zeroLanes places weights).get l =
      if places (shape.unravel l) then 0 else weightOf weights l :=
  Vector.get_ofFn ..

theorem readLabels_fill {d : Nat} {labels : Vector Int32 (Shape.size shape)}
    {marks : Vector (Option (Fin d)) (Shape.size shape)}
    (hread : readLabels d (markOf? d) ⟨shape, labels⟩ = .ok marks) :
    readLabels d (markOf? d) (Tensor.fill places ignoredLabel ⟨shape, labels⟩) =
      .ok (ignoreMarks places marks) := by
  have hmark (l : Fin (Shape.size shape)) :
      markOf? d (if places (shape.unravel l) then ignoredLabel else labels.get l) =
        some (if places (shape.unravel l) then none else marks.get l) := by
    split_ifs
    · exact markOf?_eq_some_none_iff.mpr rfl
    · exact read_get hread l
  refine readLabels_eq_ok_iff.mpr (ext_get fun l => ?_)
  rw [Vector.get_map, Vector.get_map]
  refine (congrArg (markOf? d) (Vector.get_ofFn ..)).trans ((hmark l).trans ?_)
  exact congrArg some (get_ignoreMarks places marks l).symm

theorem zeroWeights_eq {S : Type} [Scalar S] (weights : Option (Vector S (Shape.size shape))) :
    zeroWeights shape places (weights.map (Tensor.mk shape)) = ⟨shape, zeroLanes places weights⟩ := by
  cases weights with
  | none =>
    refine congrArg (Tensor.mk shape) (ext_get fun l => ?_)
    refine (Vector.get_ofFn ..).trans (.trans ?_ (Vector.get_ofFn ..).symm)
    exact congrArg (ite _ 0) (Vector.getElem_replicate l.isLt)
  | some weights => rfl

end Lanes

/-! ## Lanes that count alike -/

section Marks

variable {R D : Type} [RingScalar R] {n d : Nat}

/-- A lane has the same mark and weight twice, or it is ignored at first and has weight zero
then. -/
def CountsAlike (mark mark' : Option (Fin d)) (weight weight' : R) : Prop :=
  (mark = mark' ∧ weight = weight') ∨ (mark = none ∧ weight' = 0)

theorem ignoreMarks_countsAlike {shape : Shape} (places : List Nat → Prop) [DecidablePred places]
    (marks : Vector (Option (Fin d)) (Shape.size shape))
    (weights : Option (Vector R (Shape.size shape))) (l : Fin (Shape.size shape)) :
    CountsAlike ((ignoreMarks places marks).get l) (marks.get l) (weightOf weights l)
      (weightOf (some (zeroLanes places weights)) l) := by
  have hzero : weightOf (some (zeroLanes places weights)) l =
      if places (shape.unravel l) then 0 else weightOf weights l := get_zeroLanes places weights l
  rw [CountsAlike, hzero, get_ignoreMarks]
  split_ifs
  · exact .inr ⟨rfl, rfl⟩
  · exact .inl ⟨rfl, rfl⟩

variable {marks marks' : Vector (Option (Fin d)) n} {weights weights' : Option (Vector R n)}
  (h : ∀ l, CountsAlike (marks.get l) (marks'.get l) (weightOf weights l) (weightOf weights' l))
  (p : Vector (Vector R d) n)

include h

theorem gradient_countsAlike (scale : R) :
    Supervision.gradient scale p (.pixels (weighMarks marks weights)) =
      Supervision.gradient scale p (.pixels (weighMarks marks' weights')) := by
  apply ext_get
  intro l
  simp only [Supervision.gradient, get_zipWith, get_weighMarks]
  obtain ⟨hmark, hweight⟩ | ⟨hmark, hweight⟩ := h l
  · rw [hmark, hweight]
  · rw [hmark, hweight]
    cases marks'.get l with
    | none => rfl
    | some c =>
      refine ext_get fun j => (Vector.getElem_replicate j.isLt).trans ?_
      rw [Option.map_some, markGradient, Vector.get_ofFn, mul_zero, zero_mul]

theorem totals_countsAlike [RingScalar D] [Precision R D] (hwiden : widen (0 : R) = (0 : D)) :
    (Supervision.totals p (.pixels (weighMarks marks weights)) : Totals D) =
      Supervision.totals p (.pixels (weighMarks marks' weights')) := by
  refine congrArg₂ Totals.mk ?_ ?_
  · refine (pixels_loss p marks weights).trans (.trans ?_ (pixels_loss p marks' weights').symm)
    refine foldl_congr (fun loss l => ?_) 0
    obtain ⟨hmark, hweight⟩ | ⟨hmark, hweight⟩ := h l
    · rw [hmark, hweight]
    · -- passed over on the left, less zero times a logarithm on the right
      rw [hmark, hweight]
      cases marks'.get l with
      | none => rfl
      | some c => simp only [hwiden, zero_mul, sub_zero]
  · refine (pixels_weight p marks weights).trans (.trans ?_ (pixels_weight p marks' weights').symm)
    refine foldl_congr (fun total l => ?_) 0
    obtain ⟨hmark, hweight⟩ | ⟨hmark, hweight⟩ := h l
    · rw [hmark, hweight]
    · rw [hmark, hweight]
      cases marks'.get l with
      | none => rfl
      | some c => simp only [hwiden, add_zero]

omit h

theorem pixelLoss_countsAlike {h w : Nat} (x : Fin n → Fin d → Fin h → Fin w → R)
    {mark mark' : Fin n → Fin h → Fin w → Option (Fin d)} {weight weight' : Fin n → Fin h → Fin w → R}
    (hpixel : ∀ i y v, CountsAlike (mark i y v) (mark' i y v) (weight i y v) (weight' i y v)) :
    Reference.pixelLoss x mark weight = Reference.pixelLoss x mark' weight' := by
  unfold Reference.pixelLoss
  refine congrArg₂ (fun loss mass => Reference.foldPixels loss 0 / Reference.foldPixels mass 0)
    ?_ ?_
  · funext loss i y v
    obtain ⟨hmark, hweight⟩ | ⟨hmark, hweight⟩ := hpixel i y v
    · rw [hmark, hweight]
    · rw [hmark, hweight]
      cases mark' i y v with
      | none => rfl
      | some c => simp only [mul_zero, sub_zero]
  · funext mass i y v
    obtain ⟨hmark, hweight⟩ | ⟨hmark, hweight⟩ := hpixel i y v
    · rw [hmark, hweight]
    · rw [hmark, hweight]
      cases mark' i y v with
      | none => rfl
      | some c => exact (add_zero mass).symm

end Marks

/-! ## Both changes -/

section Changes

/-- Two operations accept scores and give the same probabilities, the same average loss and the same
gradients of it. -/
structure Operation.SameOn {S : Type} (operation operation' : Operation S) (scores : Tensor S) :
    Prop where
  forward : ∃ p loss, operation.forward scores = .ok [p, loss] ∧
    operation'.forward scores = .ok [p, loss]
  backward {outGradient : Tensor S} {g : S} : onlyEntry outGradient = .ok g →
    ∃ gradient, operation.backward outGradient scores 1 = .ok gradient ∧
      operation'.backward outGradient scores 1 = .ok gradient

/-- What targets make of the probabilities is all that counts of them. -/
theorem Fits.sameOn {S D : Type} [Scalar S] [Scalar D] [Precision S D] {targets targets' : Targets S}
    {shape : Shape} {x : Vector S (Shape.size shape)} {s : Split (Shape.size shape)}
    {a b : Supervision S s.count s.classes} (ha : Fits targets shape ⟨s, a⟩)
    (hb : Fits targets' shape ⟨s, b⟩)
    (htotals : (a.totals (softmaxLanes (s.lanes x)) : Totals D) = b.totals (softmaxLanes (s.lanes x)))
    (hgradient : ∀ scale, a.gradient scale (softmaxLanes (s.lanes x)) =
      b.gradient scale (softmaxLanes (s.lanes x))) :
    (softmaxWithLoss targets).SameOn (softmaxWithLoss targets') ⟨shape, x⟩ := by
  constructor
  · have hforward : (softmaxWithLoss targets).forward ⟨shape, x⟩ = .ok _ :=
      forward_eq_ok_iff.mpr ⟨_, ha, rfl⟩
    have hforward' : (softmaxWithLoss targets').forward ⟨shape, x⟩ = .ok _ :=
      forward_eq_ok_iff.mpr ⟨_, hb, rfl⟩
    simp only [Fitted.totals, Fitted.probabilities, ← htotals] at hforward'
    exact ⟨_, _, hforward, hforward'⟩
  · intro outGradient g hg
    have hbackward := @lossBackward_eq S _ D _ _ targets ⟨shape, x⟩ _ ha _ _ hg
    have hbackward' := @lossBackward_eq S _ D _ _ targets' ⟨shape, x⟩ _ hb _ _ hg
    simp only [Fitted.totals, Fitted.probabilities, ← htotals, ← hgradient] at hbackward'
    exact ⟨_, hbackward, hbackward'⟩

variable {R D : Type} [RingScalar R] [RingScalar D] [Precision R D]

theorem softmaxWithLoss_sameOn (hwiden : widen (0 : R) = (0 : D)) (places : List Nat → Prop)
    [DecidablePred places] {labels : Tensor Int32} {weights : Option (Tensor R)} {scores : Tensor R}
    {f : Fitted R scores.shape} (hf : Fits (.pixels labels weights) scores.shape f) :
    (softmaxWithLoss (.pixels (labels.fill places ignoredLabel) weights)).SameOn
      (softmaxWithLoss (.pixels labels (some (zeroWeights labels.shape places weights)))) scores := by
  obtain ⟨shape, x⟩ := scores
  cases hf with
  | @pixels n d h w entries marks weights hd hread =>
    rw [zeroWeights_eq]
    have hignored : Fits (.pixels _ (weights.map (Tensor.mk [n, h, w]))) [n, d, h, w] _ :=
      .pixels hd (readLabels_fill places hread)
    have hweightless := @Fits.pixels R _ n d h w _ _ (some (zeroLanes places weights)) hd hread
    have halike := ignoreMarks_countsAlike places marks weights
    exact hignored.sameOn hweightless (totals_countsAlike halike _ hwiden)
      (gradient_countsAlike halike _)

theorem spatialSoftmaxCrossEntropy_same (places : List Nat → Prop) [DecidablePred places]
    {labels : Tensor Int32} {weights : Option (Tensor R)} {scores : Tensor R}
    {f : Fitted R scores.shape} (hf : Fits (.pixels labels weights) scores.shape f) :
    ∃ p loss, Reference.spatialSoftmaxCrossEntropy scores (labels.fill places ignoredLabel) weights =
      .ok (p, loss) ∧ Reference.spatialSoftmaxCrossEntropy scores labels
        (some (zeroWeights labels.shape places weights)) = .ok (p, loss) := by
  obtain ⟨shape, x⟩ := scores
  cases hf with
  | @pixels n d h w entries marks weights hd hread =>
    have hignored := spatialSoftmaxCrossEntropy_weighted hd (readLabels_fill places hread) weights x
    have hweightless :=
      spatialSoftmaxCrossEntropy_weighted hd hread (some (zeroLanes places weights)) x
    have hloss : Reference.pixelLoss (Reference.byChannel x)
          (Reference.byPixel (ignoreMarks places marks))
          (fun i y v => weightOf weights (pixelLane (d := d) i y v)) =
        Reference.pixelLoss (Reference.byChannel x) (Reference.byPixel marks)
          (fun i y v => weightOf (some (zeroLanes places weights)) (pixelLane (d := d) i y v)) := by
      refine pixelLoss_countsAlike _ fun i y v => ?_
      exact ignoreMarks_countsAlike places marks weights (pixelLane (d := d) i y v)
    rw [← hloss] at hweightless
    rw [zeroWeights_eq]
    exact ⟨_, _, hignored, hweightless⟩

variable {A : Type} [RingScalar A]

/-- **To ignore locations is to give them no weight**: with the labels of some locations replaced by
the ignored one, and with their weights set to zero, there are the same probabilities, the same
average loss and the same gradient of it, for the operation and for its reference. -/
theorem ignored_eq_weightless (hwiden : widen (0 : R) = (0 : D)) (places : List Nat → Prop)
    [DecidablePred places] (labels : Tensor Int32) :
    (∀ (weights : Option (Tensor R)) (scores : Tensor R) (outputs : List (Tensor R)),
      (softmaxWithLoss (.pixels labels weights)).forward scores = .ok outputs →
        (softmaxWithLoss (.pixels (labels.fill places ignoredLabel) weights)).SameOn
          (softmaxWithLoss (.pixels labels (some (zeroWeights labels.shape places weights))))
          scores) ∧
    ∀ (weights : Option (Tensor A)) (scores : Tensor A) (result : Tensor A × A),
      Reference.spatialSoftmaxCrossEntropy scores labels weights = .ok result →
        ∃ p loss, Reference.spatialSoftmaxCrossEntropy scores (labels.fill places ignoredLabel)
            weights = .ok (p, loss) ∧
          Reference.spatialSoftmaxCrossEntropy scores labels
            (some (zeroWeights labels.shape places weights)) = .ok (p, loss) := by
  constructor
  · intro weights scores outputs hforward
    obtain ⟨f, hf, -⟩ := forward_eq_ok_iff.mp hforward
    exact softmaxWithLoss_sameOn hwiden places hf
  · intro weights scores result hok
    obtain ⟨f, hf⟩ := fits_of_spatialSoftmaxCrossEntropy hok
    exact spatialSoftmaxCrossEntropy_same places hf

/-- Two pixels, the second of which is dropped. -/
theorem ignored_eq_weightless_second :
    letI := ExactScalar.rational
    let scores : Tensor ℚ := ⟨[1, 2, 1, 2], #v[1, 2, 3, 4]⟩
    let weights : Tensor ℚ := ⟨[1, 1, 2], #v[3, 5]⟩
    (softmaxWithLoss (.pixels ⟨[1, 1, 2], #v[0, -1]⟩ (some weights))).SameOn
      (softmaxWithLoss (.pixels ⟨[1, 1, 2], #v[0, 1]⟩ (some ⟨[1, 1, 2], #v[3, 0]⟩))) scores ∧
    ∃ p loss, Reference.spatialSoftmaxCrossEntropy scores ⟨[1, 1, 2], #v[0, -1]⟩ (some weights) =
        .ok (p, loss) ∧
      Reference.spatialSoftmaxCrossEntropy scores ⟨[1, 1, 2], #v[0, 1]⟩
        (some ⟨[1, 1, 2], #v[3, 0]⟩) = .ok (p, loss) := by
  let _ := ExactScalar.rational
  intro scores weights
  let labels : Tensor Int32 := ⟨[1, 1, 2], #v[0, 1]⟩
  have hignored : labels.fill (· = [0, 0, 1]) ignoredLabel = ⟨[1, 1, 2], #v[0, -1]⟩ := by
    decide +kernel
  have hzero : zeroWeights [1, 1, 2] (· = [0, 0, 1]) (some weights) = ⟨[1, 1, 2], #v[3, 0]⟩ := by
    decide +kernel
  have hforward : (softmaxWithLoss (.pixels labels (some weights))).forward scores =
      .ok [⟨[1, 2, 1, 2], #v[5/6, 5/6, 1/6, 1/6]⟩, Tensor.scalar (7/12)] := by decide +kernel
  have hreference : Reference.spatialSoftmaxCrossEntropy scores labels (some weights) =
      .ok (⟨[1, 2, 1, 2], #v[5/6, 5/6, 1/6, 1/6]⟩, 7/12) := by decide +kernel
  have hsame := ignored_eq_weightless (R := ℚ) (A := ℚ) rfl (· = [0, 0, 1]) labels
  rw [hignored] at hsame
  rw [← hzero]
  exact ⟨hsame.1 _ _ _ hforward, hsame.2 _ _ _ hreference⟩

end Changes

end CrossEntropy
