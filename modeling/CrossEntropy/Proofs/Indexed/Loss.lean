import CrossEntropy.Proofs.Indexed.Labels
import CrossEntropy.Proofs.Indexed.Softmax
import CrossEntropy.Proofs.LossReference

/-!
# Softmax with loss by index

The loss operation as a program that tests its targets once and then trusts them: labels are
indices, weights lie where labels do, and targets have the shape of the scores. It never stops, and
is the loss operation.

* `validate`, `accepted_eq`: the tests, and what is known once they are passed;
* `labelTotals`, `distributionTotals`, `pixelTotals`: total loss and weight;
* `labelGradient`, `distributionGradient`, `pixelGradient`: gradients, entry by entry;
* **`softmaxWithLoss_renders`**: the operation that is made of them.
-/

namespace CrossEntropy.Indexed

open Scalar Precision

/-! ## Tests -/

section Validate

variable {S : Type} [Scalar S]

/-- Demands targets that fit scores of a shape. -/
def validate : Targets S → Shape → Except ShapeError Unit
  | .labels given, [n, d] => do
    let _ ← given.expectShape "labels" [n]
    validateLabels d false given
  | .distributions given, [n, d] => do
    let _ ← given.expectShape "targets" [n, d]
  | .pixels given weights, [n, d, h, w] => do
    let _ ← given.expectShape "labels" [n, h, w]
    let _ ← expectWeights [n, h, w] weights
    validateLabels d true given
  | .pixels .., shape => throw (.wrongRank 4 shape)
  | _, shape => throw (.wrongRank 2 shape)

/-- Continues with targets that fit scores of a shape with a class. -/
def accepted {β : Type} (targets : Targets S) (shape : Shape) (continuation : Run ShapeError β) :
    Run ShapeError β := do
  settled (validate targets shape)
  let classes ← access shape[1]?
  if classes = 0 then settled (.error (.noClasses shape)) else continuation

omit [Scalar S] in
theorem ite_noClasses {β : Type} {shape : Shape} {d : Nat} {k : Run ShapeError β}
    {f : Fitted S shape} {g : Fitted S shape → Except ShapeError β}
    (h : d ≠ 0 → k = settled (g f)) :
    (if d = 0 then settled (.error (.noClasses shape)) else k) =
      settled ((if d = 0 then .error (.noClasses shape) else .ok f) >>= g) := by
  by_cases hd : d = 0
  · rw [if_pos hd, if_pos hd]
    rfl
  · rw [if_neg hd, if_neg hd]
    exact h hd

/-- **Past the tests, targets fit.** -/
theorem accepted_eq {β : Type} {targets : Targets S} {shape : Shape} {k : Run ShapeError β}
    {g : Fitted S shape → Except ShapeError β} (h : ∀ f, Fits targets shape f → k = settled (g f)) :
    accepted targets shape k = settled (targets.resolve shape >>= g) := by
  unfold accepted
  match targets, shape with
  | .labels given, [n, d] =>
    rw [resolve_labels, bind_assoc, validate, settled_bind_assoc]
    apply settled_bind
    intro entries hentries
    rw [expectShape_eq_ok_iff] at hentries
    subst hentries
    rw [validateLabels_eq fun _ => isNameless_eq_class]
    cases hread : readLabels d (classOf? d) ⟨[n], entries⟩ with
    | error e => rfl
    | ok classes => exact ite_noClasses fun hd => h _ (.labels hd hread)
  | .distributions given, [n, d] =>
    rw [resolve_distributions, bind_assoc, validate, settled_bind_assoc]
    apply settled_bind
    intro entries hentries
    rw [expectShape_eq_ok_iff] at hentries
    subst hentries
    exact ite_noClasses fun hd => h _ (.distributions hd)
  | .pixels given weights, [n, d, height, w] =>
    rw [resolve_pixels, bind_assoc, validate, settled_bind_assoc]
    apply settled_bind
    intro entries hentries
    rw [expectShape_eq_ok_iff] at hentries
    subst hentries
    rw [bind_assoc, settled_bind_assoc]
    apply settled_bind
    intro weightEntries hweights
    rw [expectWeights_eq_ok_iff] at hweights
    subst hweights
    rw [validateLabels_eq fun _ => isNameless_eq_mark]
    cases hread : readLabels d (markOf? d) ⟨[n, height, w], entries⟩ with
    | error e => rfl
    | ok marks => exact ite_noClasses fun hd => h _ (.pixels hd hread)
  | .labels _, [] | .labels _, [_] | .labels _, _ :: _ :: _ :: _
  | .distributions _, [] | .distributions _, [_] | .distributions _, _ :: _ :: _ :: _
  | .pixels .., [] | .pixels .., [_] | .pixels .., [_, _] | .pixels .., [_, _, _]
  | .pixels .., _ :: _ :: _ :: _ :: _ :: _ => rfl

end Validate

variable {S D : Type} [Scalar S] [Scalar D] [Precision S D]

/-! ## Totals -/

/-- Loss and weight of rows with labels, which index the probabilities. -/
def labelTotals (labels : Tensor Int32) (probabilities : Tensor S) : Option (Totals D) := do
  let loss ← loop labels.shape (fun location loss => do
    let label ← read labels location
    let p ← read probabilities (atClass location (asIndex label))
    return loss + -widen (logProbability p)) (-0)
  return ⟨loss, ofNat labels.size⟩

-- untested, a label that is not one of two classes stops the program
example (p : Vector S (Shape.size [1, 2])) :
    (labelTotals ⟨[1], #v[2]⟩ ⟨[1, 2], p⟩ : Option (Totals D)) = none := by
  cbv

/-- Loss and weight of rows with distributions, walked over in step with the probabilities. -/
def distributionTotals (targets probabilities : Tensor S) : Option (Totals D) := do
  let targetEntries ← inStep targets probabilities.shape
  let loss := Fin.foldl probabilities.size (fun loss k =>
    loss - widen (targetEntries.get k * logProbability (probabilities.entries.get k))) 0
  let rows ← targets.shape[0]?
  return ⟨loss, ofNat rows⟩

/-- Loss and weight of the pixels that are not ignored. -/
def pixelTotals (labels : Tensor Int32) (weights : Option (Tensor S)) (probabilities : Tensor S) :
    Option (Totals D) :=
  loop labels.shape (fun location totals =>
    atCounted labels weights location totals fun index weight => do
      let p ← read probabilities (atClass location index)
      return ⟨totals.loss - widen weight * widen (logProbability p), totals.weight + widen weight⟩)
    ⟨0, 0⟩

/-- Loss and weight, for probabilities of the rank that targets are for. -/
def totals (targets : Targets S) (probabilities : Tensor S) : Run ShapeError (Totals D) :=
  match targets with
  | .labels given => do
    settled (probabilities.expectRank 2)
    access (labelTotals given probabilities)
  | .distributions given => do
    settled (probabilities.expectRank 2)
    access (distributionTotals given probabilities)
  | .pixels given weights => do
    settled (probabilities.expectRank 4)
    access (pixelTotals given weights probabilities)

/-! ## Gradients -/

/-- The probabilities, less one at every label, scaled. -/
def labelGradient (scale : S) (labels : Tensor Int32) (probabilities : Tensor S) :
    Option (Tensor S) := do
  let gradient ← loop labels.shape (fun location gradient => do
    let label ← read labels location
    let p ← read gradient (atClass location (asIndex label))
    write gradient (atClass location (asIndex label)) (p - 1)) probabilities
  return gradient.map (· * scale)

/-- The gradient of a row, before it is scaled. -/
def rowGradient {d : Nat} (p targets : Vector S d) : Vector S d :=
  let mass := total targets
  Vector.zipWith (fun q t => q * mass - t) p targets

/-- The gradients of rows, walked over in step with their targets, scaled. -/
def distributionGradient (scale : S) (targets probabilities : Tensor S) : Option (Tensor S) := do
  let s ← Split.along probabilities.shape defaultAxis
  let _ ← Split.along targets.shape defaultAxis
  let targetEntries ← inStep targets probabilities.shape
  let rows := Vector.zipWith rowGradient (s.lanes probabilities.entries) (s.lanes targetEntries)
  let gradient : Tensor S := ⟨probabilities.shape, s.join rows⟩
  return gradient.map (· * scale)

/-- The weighted gradients of the pixels that are not ignored, and zero elsewhere. -/
def pixelGradient (scale : S) (labels : Tensor Int32) (weights : Option (Tensor S))
    (probabilities : Tensor S) : Option (Tensor S) := do
  let classes ← probabilities.shape[1]?
  loop labels.shape (fun location gradient =>
    atCounted labels weights location gradient fun index weight =>
      Fin.foldlM classes (fun gradient c => do
        let p ← read probabilities (atClass location c)
        write gradient (atClass location c)
          (scale * weight * (p - if c.val = index then 1 else 0))) gradient)
    ⟨probabilities.shape, Vector.replicate _ 0⟩

/-- The gradient of the loss, for probabilities of the rank that targets are for. -/
def gradient (scale : S) (targets : Targets S) (probabilities : Tensor S) :
    Run ShapeError (Tensor S) :=
  match targets with
  | .labels given => do
    settled (probabilities.expectRank 2)
    access (labelGradient scale given probabilities)
  | .distributions given => do
    settled (probabilities.expectRank 2)
    access (distributionGradient scale given probabilities)
  | .pixels given weights => do
    settled (probabilities.expectRank 4)
    access (pixelGradient scale given weights probabilities)

/-! ## The operation -/

/-- The probabilities of scores, their average loss, and the weight it is averaged over. -/
structure Evaluation (S : Type) where
  probabilities : Tensor S
  averageLoss : S
  totalWeight : S

/-- Tests the inputs, then computes probabilities, average loss and total weight. -/
def evaluate (targets : Targets S) (scores : Tensor S) : Run ShapeError (Evaluation S) :=
  accepted targets scores.shape do
    let probabilities ← access (softmaxLanes scores)
    let totals : Totals D ← totals targets probabilities
    return ⟨probabilities, narrow (totals.loss / totals.weight), narrow totals.weight⟩

/-- Softmax followed by the average cross-entropy against targets. -/
def softmaxWithLoss (targets : Targets S) : Operation S where
  outputCount := 2
  forward scores := do
    let e ← evaluate targets scores
    return [e.probabilities, Tensor.scalar e.averageLoss]
  backward outGradient scores output :=
    match output with
    | 0 => do
      let _ ← settled (outGradient.expectShape "out_gradient" scores.shape)
      let e ← evaluate targets scores
      access (softmaxBackwardLanes e.probabilities outGradient)
    | 1 => do
      let g ← settled (onlyEntry outGradient)
      let e ← evaluate targets scores
      gradient (g / e.totalWeight) targets e.probabilities
    | _ => settled (.error (.noSuchOutput output))

/-! ## Totals of targets that fit -/

section Labels

variable {n d : Nat} {entries : Vector Int32 (Shape.size [n])}
  {classes : Vector (Fin d) (Shape.size [n])}
  (hread : readLabels d (classOf? d) ⟨[n], entries⟩ = .ok classes)
  (p : Vector (Vector S d) (Shape.size [n]))

include hread

theorem labelTotals_eq :
    labelTotals ⟨[n], entries⟩ (ofLanes n [] p) =
      some (Supervision.totals p (.labels classes) : Totals D) := by
  have hloop : loop [n] (fun location loss => do
      let label ← read ⟨[n], entries⟩ location
      let q ← read (ofLanes n [] p) (atClass location (asIndex label))
      return loss + -widen (logProbability q)) (-0 : D) =
      some (Supervision.totals p (.labels classes) : Totals D).loss := by
    rw [labels_loss]
    apply loop_eq id
    intro loss l
    have hindex : asIndex (entries.get l) = classes.get l := asIndex_of_class hread l
    simp only [read_unravel, Option.bind_eq_bind, Option.bind_some, hindex, read_ofLanes]
    rfl
  unfold labelTotals
  rw [hloop]
  rfl

theorem labelGradient_eq (scale : S) :
    labelGradient scale ⟨[n], entries⟩ (ofLanes n [] p) =
      some (ofLanes n [] (Supervision.gradient scale p (.labels classes))) := by
  have hloop : loop [n] (fun location gradient => do
      let label ← read ⟨[n], entries⟩ location
      let q ← read gradient (atClass location (asIndex label))
      write gradient (atClass location (asIndex label)) (q - 1)) (ofLanes n [] p) =
      some (ofLanes n [] (Vector.ofFn fun l =>
        (p.get l).set (classes.get l) ((p.get l).get (classes.get l) - 1))) := by
    apply loop_lanes (f := fun l lane => lane.set (classes.get l) (lane.get (classes.get l) - 1))
    intro b l
    have hindex : asIndex (entries.get l) = classes.get l := asIndex_of_class hread l
    simp only [read_unravel, Option.bind_eq_bind, Option.bind_some, hindex, read_ofLanes,
      write_ofLanes]
  unfold labelGradient
  rw [hloop]
  refine congrArg some ((map_ofLanes _ (· * scale)).trans (congrArg (ofLanes n []) ?_))
  apply ext_get
  intro l
  have hrow : (Supervision.gradient scale p (.labels classes)).get l =
      CrossEntropy.labelGradient scale (p.get l) (classes.get l) := get_zipWith ..
  rw [hrow, Vector.get_map, Vector.get_ofFn]
  apply ext_get
  intro c
  unfold CrossEntropy.labelGradient
  rw [Vector.get_map, Vector.get_ofFn, get_set]
  by_cases hc : classes.get l = c
  · rw [if_pos hc, if_pos hc.symm, hc]
  · rw [if_neg hc, if_neg (Ne.symm hc)]

end Labels

section Distributions

variable {n d : Nat} (p : Vector (Vector S d) (Shape.size [n])) (t : Vector S (Shape.size [n, d]))

theorem foldl_entries {β : Type} (f : β → Fin (Shape.size [n, d]) → β) (b : β) :
    Fin.foldl (Shape.size [n, d]) f b = Fin.foldl (Split.classAxis n d []).count
      (fun b l => Fin.foldl d (fun b c => f b ((Split.classAxis n d []).entry l c)) b) b := by
  rw [foldl_rowLane]
  refine (foldl_mul f b).trans ?_
  apply foldl_congr
  intro b i
  refine (congrFun (Fin.foldl_congr (Nat.mul_one d) _) b).trans ?_
  apply foldl_congr
  intro b c
  have hentry := (Split.classAxis n d []).entry_of_rows rfl (rowLane i) c
  apply congrArg (f b)
  apply Fin.ext
  show i * (d * 1) + c = _
  rw [Nat.mul_one]
  exact hentry.symm

theorem distributionTotals_eq :
    distributionTotals ⟨[n, d], t⟩ (ofLanes n [] p) =
      some (Supervision.totals p (.distributions ((Split.classAxis n d []).lanes t)) :
        Totals D) := by
  have hloss : Fin.foldl (Shape.size [n, d]) (fun loss k => loss -
      widen (t.get k * logProbability ((ofLanes n [] p).entries.get k))) (0 : D) =
      (Supervision.totals p (.distributions ((Split.classAxis n d []).lanes t)) :
        Totals D).loss := by
    rw [foldl_entries]
    refine Eq.trans ?_ (distributions_loss p _).symm
    apply foldl_congr
    intro loss l
    refine Eq.trans ?_ (lessWeightedLogs_eq loss _ _).symm
    apply foldl_congr
    intro loss c
    have ht := (Split.classAxis n d []).get_lanes t l c
    exact congrArg₂ (fun t q => loss - widen (t * logProbability q)) ht.symm (get_ofLanes p l c)
  have hweight : ofNat n = (Supervision.totals p (.distributions ((Split.classAxis n d []).lanes t)) :
      Totals D).weight := congrArg ofNat (Nat.mul_one n).symm
  unfold distributionTotals
  have hstep : inStep ⟨[n, d], t⟩ (ofLanes n [] p).shape = some t := inStep_eq t
  rw [hstep]
  exact congrArg₂ (fun loss weight => some (Totals.mk loss weight)) hloss hweight

theorem map_rowGradient (scale : S) (q targets : Vector S d) :
    (rowGradient q targets).map (· * scale) =
      CrossEntropy.distributionGradient scale q targets := by
  apply ext_get
  intro c
  unfold rowGradient CrossEntropy.distributionGradient
  rw [Vector.get_map, get_zipWith, get_zipWith]

theorem distributionGradient_eq (scale : S) :
    distributionGradient scale ⟨[n, d], t⟩ (ofLanes n [] p) =
      some (ofLanes n [] (Supervision.gradient scale p
        (.distributions ((Split.classAxis n d []).lanes t)))) := by
  have halong : Split.along (ofLanes n [] p).shape defaultAxis = some (Split.classAxis n d []) :=
    along_classAxis n d []
  have hstep : inStep ⟨[n, d], t⟩ (ofLanes n [] p).shape = some t := inStep_eq t
  have hlanes : (Split.classAxis n d []).lanes (ofLanes n [] p).entries = p :=
    (Split.classAxis n d []).lanes_join p
  unfold distributionGradient
  simp only [halong, hstep, along_classAxis, Option.bind_eq_bind, Option.bind_some]
  refine congrArg some ((map_ofLanes _ (· * scale)).trans (congrArg (ofLanes n []) ?_))
  apply ext_get
  intro l
  have hrow : (Supervision.gradient scale p
      (.distributions ((Split.classAxis n d []).lanes t))).get l =
      CrossEntropy.distributionGradient scale (p.get l)
        (((Split.classAxis n d []).lanes t).get l) := get_zipWith ..
  have hlane : (Vector.zipWith rowGradient ((Split.classAxis n d []).lanes (ofLanes n [] p).entries)
      ((Split.classAxis n d []).lanes t)).get l =
      rowGradient (p.get l) (((Split.classAxis n d []).lanes t).get l) :=
    (get_zipWith ..).trans (congrArg (fun b => rowGradient (b.get l) _) hlanes)
  refine (Vector.get_map ..).trans (Eq.trans ?_ hrow.symm)
  refine (congrArg (Vector.map (· * scale)) hlane).trans ?_
  exact map_rowGradient scale _ _

end Distributions

section Pixels

variable {n d h w : Nat} {entries : Vector Int32 (Shape.size [n, h, w])}
  {marks : Vector (Option (Fin d)) (Shape.size [n, h, w])}
  (hread : readLabels d (markOf? d) ⟨[n, h, w], entries⟩ = .ok marks)
  (weights : Option (Vector S (Shape.size [n, h, w])))
  (p : Vector (Vector S d) (Shape.size [n, h, w]))

include hread

theorem pixelTotals_eq :
    pixelTotals ⟨[n, h, w], entries⟩ (weights.map (Tensor.mk [n, h, w])) (ofLanes n [h, w] p) =
      some (Supervision.totals p (.pixels (weighMarks marks weights)) : Totals D) := by
  have hloss := (pixels_loss (D := D) p marks weights).symm
  have hweight := (pixels_weight (D := D) p marks weights).symm
  refine (loop_prod Totals.mk ?_ 0 0).trans (congrArg₂ (fun a b => some (Totals.mk a b)) hloss hweight)
  intro loss weight l
  rw [atCounted_eq hread]
  cases marks.get l with
  | none => rfl
  | some c =>
    simp only [read_ofLanes]
    rfl

theorem pixelGradient_eq (scale : S) :
    pixelGradient scale ⟨[n, h, w], entries⟩ (weights.map (Tensor.mk [n, h, w]))
        (ofLanes n [h, w] p) =
      some (ofLanes n [h, w]
        (Supervision.gradient scale p (.pixels (weighMarks marks weights)))) := by
  have hclasses : (ofLanes n [h, w] p).shape[1]? = some d := rfl
  have hzero : Tensor.mk (ofLanes n [h, w] p).shape (Vector.replicate _ (0 : S)) =
      ofLanes n [h, w] (Vector.replicate _ (Vector.replicate d 0)) :=
    congrArg (Tensor.mk [n, d, h, w]) (join_replicate (Split.classAxis n d [h, w]) 0).symm
  unfold pixelGradient
  rw [hzero]
  simp only [hclasses, Option.bind_eq_bind, Option.bind_some]
  refine (loop_lanes (f := fun l lane => (marks.get l).elim lane fun c =>
    markGradient scale (p.get l) (some (c, weightOf weights l))) ?_).trans ?_
  · intro b l
    rw [atCounted_eq hread]
    cases marks.get l with
    | none => exact congrArg (fun b => some (ofLanes n [h, w] b)) (set_get b l).symm
    | some c =>
      apply foldlM_lane (l := l) (f := fun j _ =>
        scale * weightOf weights l * ((p.get l).get j - if j = c then 1 else 0))
      intro b j
      simp only [read_ofLanes, Option.bind_some, Fin.val_inj, write_ofLanes]
  · refine congrArg (fun lanes => some (ofLanes n [h, w] lanes)) (ext_get ?_)
    intro l
    have hlane : (Supervision.gradient scale p (.pixels (weighMarks marks weights))).get l =
        markGradient scale (p.get l) ((weighMarks marks weights).get l) := get_zipWith ..
    rw [hlane, get_weighMarks, Vector.get_ofFn]
    cases marks.get l with
    | none => exact Vector.getElem_replicate ..
    | some c => rfl

end Pixels

/-! ## The operation on targets that fit -/

section Fits

variable {targets : Targets S} {shape : Shape} {f : Fitted S shape} (hf : Fits targets shape f)

include hf

theorem totals_eq (p : Vector (Vector S f.split.classes) f.split.count) :
    totals targets (f.tensor p) = settled (.ok (f.supervision.totals p : Totals D)) := by
  cases hf with
  | labels hd hread => exact congrArg access (labelTotals_eq hread p)
  | distributions hd => exact congrArg access (distributionTotals_eq p _)
  | pixels hd hread => exact congrArg access (pixelTotals_eq hread _ p)

theorem gradient_eq (scale : S) (p : Vector (Vector S f.split.classes) f.split.count) :
    gradient scale targets (f.tensor p) =
      settled (.ok (f.tensor (f.supervision.gradient scale p))) := by
  cases hf with
  | labels hd hread => exact congrArg access (labelGradient_eq hread p scale)
  | distributions hd => exact congrArg access (distributionGradient_eq p _ scale)
  | pixels hd hread => exact congrArg access (pixelGradient_eq hread _ p scale)

theorem softmaxLanes_of_fits (x : Vector S (Shape.size shape)) :
    softmaxLanes ⟨shape, x⟩ = some (f.tensor (CrossEntropy.softmaxLanes (f.split.lanes x))) := by
  cases hf with
  | labels hd hread => exact softmaxLanes_eq x
  | distributions hd => exact softmaxLanes_eq x
  | pixels hd hread => exact softmaxLanes_eq x

theorem softmaxBackwardLanes_of_fits (x g : Vector S (Shape.size shape)) :
    softmaxBackwardLanes (f.tensor (CrossEntropy.softmaxLanes (f.split.lanes x))) ⟨shape, g⟩ =
      some (f.tensor (CrossEntropy.softmaxBackwardLanes
        (CrossEntropy.softmaxLanes (f.split.lanes x)) (f.split.lanes g))) := by
  cases hf with
  | labels hd hread => exact softmaxBackwardLanes_eq x g
  | distributions hd => exact softmaxBackwardLanes_eq x g
  | pixels hd hread => exact softmaxBackwardLanes_eq x g

end Fits

theorem evaluate_eq (targets : Targets S) (scores : Tensor S) :
    evaluate targets scores = settled (targets.evaluate scores >>= fun e =>
      .ok ⟨e.fitted.tensor e.probabilities, e.averageLoss, e.totalWeight⟩) := by
  obtain ⟨shape, x⟩ := scores
  unfold evaluate Targets.evaluate
  rw [bind_assoc]
  apply accepted_eq
  intro f hf
  rw [softmaxLanes_of_fits hf, access_some, settled_ok_bind, totals_eq hf, settled_ok_bind]
  rfl

/-- **Softmax with loss never accesses anything out of bounds.** -/
theorem softmaxWithLoss_renders (targets : Targets S) :
    (softmaxWithLoss targets).Renders (CrossEntropy.softmaxWithLoss targets) := by
  constructor
  · rfl
  · intro scores
    show evaluate targets scores >>= _ = settled (lossForward targets scores)
    rw [evaluate_eq, settled_bind_assoc]
    apply settled_bind
    intro e _
    rfl
  · intro outGradient scores output
    obtain ⟨shape, x⟩ := scores
    rw [softmaxWithLoss_backward]
    match output with
    | 0 =>
      apply settled_bind
      intro g hg
      rw [expectShape_eq_ok_iff] at hg
      subst hg
      rw [evaluate_eq, settled_bind_assoc]
      apply settled_bind
      intro e he
      obtain ⟨f, hf, rfl⟩ := evaluate_eq_ok_iff.mp he
      exact congrArg access (softmaxBackwardLanes_of_fits hf x g)
    | 1 =>
      apply settled_bind
      intro g hg
      rw [evaluate_eq, settled_bind_assoc]
      apply settled_bind
      intro e he
      obtain ⟨f, hf, rfl⟩ := evaluate_eq_ok_iff.mp he
      exact gradient_eq hf _ _
    | _ + 2 => rfl

end CrossEntropy.Indexed
