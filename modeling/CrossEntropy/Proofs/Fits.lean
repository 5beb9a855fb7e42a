import CrossEntropy.Proofs.Lane
import CrossEntropy.Proofs.Outcome
import CrossEntropy.Loss

/-!
# Targets that fit

What it takes for targets to be held against scores of a shape, as a relation: the given tensors
have the shapes that the scores ask for, every label can be read, and there is a class.

* `Fits`: targets, a shape and what becomes of the targets;
* **`resolve_eq_ok_iff`**: targets are accepted exactly if they fit;
* `Fits.exists_shape`, `Fits.eq_classAxis`: the shape of the scores and their lanes;
* `weightOf`, `get_weighMarks`, `pixels_weight`: the weight of a lane and of all of them;
* `forward_eq_bind`, `lossBackward_eq_bind`: nothing is refused once the targets fit;
* `forward_eq_ok_iff`: the outputs for accepted scores.
-/

namespace CrossEntropy

open Scalar Precision

variable {S : Type} [Scalar S]

theorem expectWeights_eq_ok_iff {shape : Shape} {given : Option (Tensor S)}
    {weights : Option (Vector S (Shape.size shape))} :
    expectWeights shape given = .ok weights ↔ given = weights.map (Tensor.mk shape) := by
  unfold expectWeights
  cases given with
  | none =>
    cases weights with
    | none => simp [pure, Except.pure]
    | some w => simp [pure, Except.pure]
  | some x =>
    cases weights with
    | none => simp [bind_eq_ok_iff, pure, Except.pure]
    | some w => simp [bind_eq_ok_iff, expectShape_eq_ok_iff, pure, Except.pure]

/-- Targets fit scores of a shape, and are these lanes and targets of lanes. -/
inductive Fits : Targets S → (shape : Shape) → Fitted S shape → Prop
  | labels {n d : Nat} {entries : Vector Int32 (Shape.size [n])}
      {classes : Vector (Fin d) (Shape.size [n])} (hd : d ≠ 0)
      (hread : readLabels d (classOf? d) ⟨[n], entries⟩ = .ok classes) :
      Fits (.labels ⟨[n], entries⟩) [n, d] ⟨Split.classAxis n d [], .labels classes⟩
  | distributions {n d : Nat} {entries : Vector S (Shape.size [n, d])} (hd : d ≠ 0) :
      Fits (.distributions ⟨[n, d], entries⟩) [n, d]
        ⟨Split.classAxis n d [], .distributions ((Split.classAxis n d []).lanes entries)⟩
  | pixels {n d h w : Nat} {entries : Vector Int32 (Shape.size [n, h, w])}
      {marks : Vector (Option (Fin d)) (Shape.size [n, h, w])}
      {weights : Option (Vector S (Shape.size [n, h, w]))} (hd : d ≠ 0)
      (hread : readLabels d (markOf? d) ⟨[n, h, w], entries⟩ = .ok marks) :
      Fits (.pixels ⟨[n, h, w], entries⟩ (weights.map (Tensor.mk [n, h, w]))) [n, d, h, w]
        ⟨Split.classAxis n d [h, w], .pixels (weighMarks marks weights)⟩

/-! ## Resolving by kind -/

theorem resolve_labels (given : Tensor Int32) (n d : Nat) :
    (Targets.labels given : Targets S).resolve [n, d] =
      given.expectShape "labels" [n] >>= fun entries =>
        readLabels d (classOf? d) ⟨[n], entries⟩ >>= fun classes =>
          if d = 0 then .error (.noClasses [n, d])
          else .ok ⟨Split.classAxis n d [], .labels classes⟩ := by
  refine congrArg (_ >>= ·) (funext fun entries => congrArg (_ >>= ·) (funext fun classes => ?_))
  split <;> rfl

theorem resolve_distributions (given : Tensor S) (n d : Nat) :
    (Targets.distributions given).resolve [n, d] =
      given.expectShape "targets" [n, d] >>= fun entries =>
        if d = 0 then .error (.noClasses [n, d])
        else .ok ⟨Split.classAxis n d [],
          .distributions ((Split.classAxis n d []).lanes entries)⟩ := by
  refine congrArg (_ >>= ·) (funext fun entries => ?_)
  split <;> rfl

theorem resolve_pixels (given : Tensor Int32) (weights : Option (Tensor S)) (n d h w : Nat) :
    (Targets.pixels given weights).resolve [n, d, h, w] =
      given.expectShape "labels" [n, h, w] >>= fun entries =>
        expectWeights [n, h, w] weights >>= fun weights =>
          readLabels d (markOf? d) ⟨[n, h, w], entries⟩ >>= fun marks =>
            if d = 0 then .error (.noClasses [n, d, h, w])
            else .ok ⟨Split.classAxis n d [h, w], .pixels (weighMarks marks weights)⟩ := by
  refine congrArg (_ >>= ·) (funext fun entries => congrArg (_ >>= ·) (funext fun weights =>
    congrArg (_ >>= ·) (funext fun marks => ?_)))
  split <;> rfl

/-- **Targets are accepted exactly if they fit.** -/
theorem resolve_eq_ok_iff {targets : Targets S} {shape : Shape} {fitted : Fitted S shape} :
    targets.resolve shape = .ok fitted ↔ Fits targets shape fitted := by
  constructor
  · intro hok
    unfold Targets.resolve at hok
    split at hok
    next given n d =>
      change (Targets.labels given : Targets S).resolve [n, d] = _ at hok
      rw [resolve_labels] at hok
      simp only [bind_eq_ok_iff, expectShape_eq_ok_iff, ite_error_eq_ok_iff] at hok
      obtain ⟨entries, rfl, classes, hread, hd, rfl⟩ := hok
      exact .labels hd hread
    next given n d =>
      change (Targets.distributions given).resolve [n, d] = _ at hok
      rw [resolve_distributions] at hok
      simp only [bind_eq_ok_iff, expectShape_eq_ok_iff, ite_error_eq_ok_iff] at hok
      obtain ⟨entries, rfl, hd, rfl⟩ := hok
      exact .distributions hd
    next given weights n d h w =>
      change (Targets.pixels given weights).resolve [n, d, h, w] = _ at hok
      rw [resolve_pixels] at hok
      simp only [bind_eq_ok_iff, expectShape_eq_ok_iff, expectWeights_eq_ok_iff,
        ite_error_eq_ok_iff] at hok
      obtain ⟨entries, rfl, weights, rfl, marks, hread, hd, rfl⟩ := hok
      exact .pixels hd hread
    next => cases hok
    next => cases hok
  · intro h
    cases h with
    | labels hd hread =>
      simp only [resolve_labels, bind_eq_ok_iff, expectShape_eq_ok_iff, ite_error_eq_ok_iff]
      exact ⟨_, rfl, _, hread, hd, rfl⟩
    | distributions hd =>
      simp only [resolve_distributions, bind_eq_ok_iff, expectShape_eq_ok_iff,
        ite_error_eq_ok_iff]
      exact ⟨_, rfl, hd, rfl⟩
    | pixels hd hread =>
      simp only [resolve_pixels, bind_eq_ok_iff, expectShape_eq_ok_iff, expectWeights_eq_ok_iff,
        ite_error_eq_ok_iff]
      exact ⟨_, rfl, _, rfl, _, hread, hd, rfl⟩

theorem Fits.exists_shape {targets : Targets S} {shape : Shape} {f : Fitted S shape}
    (h : Fits targets shape f) : ∃ n d rest, d ≠ 0 ∧ shape = n :: d :: rest := by
  cases h with
  | labels hd => exact ⟨_, _, _, hd, rfl⟩
  | distributions hd => exact ⟨_, _, _, hd, rfl⟩
  | pixels hd => exact ⟨_, _, _, hd, rfl⟩

theorem Fits.eq_classAxis {targets : Targets S} {n d : Nat} {rest : Shape}
    {f : Fitted S (n :: d :: rest)} (h : Fits targets (n :: d :: rest) f) :
    ∃ a : Supervision S (Split.classAxis n d rest).count d, f = ⟨Split.classAxis n d rest, a⟩ := by
  cases h <;> exact ⟨_, rfl⟩

/-! ## Weights of lanes -/

section Weights

variable {D : Type} [Scalar D] [Precision S D] {n d : Nat}

/-- The weight of a lane, one where no weights are given. -/
def weightOf (weights : Option (Vector S n)) (l : Fin n) : S :=
  match weights with
  | none => 1
  | some weights => weights.get l

theorem get_weighMarks (marks : Vector (Option (Fin d)) n) (weights : Option (Vector S n))
    (l : Fin n) :
    (weighMarks marks weights).get l = (marks.get l).map fun c => (c, weightOf weights l) := by
  cases weights with
  | none => exact Vector.get_map ..
  | some weights => exact get_zipWith ..

theorem pixels_weight (p : Vector (Vector S d) n) (marks : Vector (Option (Fin d)) n)
    (weights : Option (Vector S n)) :
    (Supervision.totals p (.pixels (weighMarks marks weights)) : Totals D).weight =
      Fin.foldl n (fun total l => match marks.get l with
        | none => total
        | some _ => total + widen (weightOf weights l)) 0 := by
  simp only [Supervision.totals, foldl_eq, get_weighMarks]
  refine foldl_congr (fun total l => ?_) 0
  cases marks.get l <;> rfl

end Weights

/-! ## Outputs and gradients -/

section Outputs

variable {D : Type} [Scalar D] [Precision S D] {targets : Targets S} {scores : Tensor S}

/-- The probabilities of every lane. -/
def Fitted.probabilities (f : Fitted S scores.shape) :
    Vector (Vector S f.split.classes) f.split.count :=
  softmaxLanes (f.split.lanes scores.entries)

/-- Total loss and total weight of the lanes. -/
def Fitted.totals (f : Fitted S scores.shape) : Totals D :=
  f.supervision.totals f.probabilities

theorem forward_eq_bind (targets : Targets S) (scores : Tensor S) :
    (softmaxWithLoss targets).forward scores = targets.resolve scores.shape >>= fun f =>
      .ok [f.tensor f.probabilities, Tensor.scalar (narrow (f.totals.loss / f.totals.weight))] := by
  change lossForward targets scores = _
  unfold lossForward Targets.evaluate
  cases targets.resolve scores.shape <;> rfl

theorem lossBackward_eq_bind (targets : Targets S) (outGradient scores : Tensor S) :
    lossBackward targets outGradient scores = onlyEntry outGradient >>= fun g =>
      targets.resolve scores.shape >>= fun f => .ok (f.tensor
        (f.supervision.gradient (g / narrow (f.totals : Totals D).weight) f.probabilities)) := by
  unfold lossBackward Targets.evaluate
  refine congrArg (_ >>= ·) (funext fun g => ?_)
  cases targets.resolve scores.shape <;> rfl

theorem evaluate_eq_ok_iff {e : Evaluation S scores.shape} :
    targets.evaluate scores = .ok e ↔ ∃ f, Fits targets scores.shape f ∧
      ⟨f, f.probabilities, narrow (f.totals.loss / f.totals.weight), narrow f.totals.weight⟩ =
        e := by
  unfold Targets.evaluate
  simp only [bind_eq_ok_iff, resolve_eq_ok_iff, pure, Except.pure, Except.ok.injEq]
  rfl

theorem forward_eq_ok_iff {outputs : List (Tensor S)} :
    (softmaxWithLoss targets).forward scores = .ok outputs ↔
      ∃ f, Fits targets scores.shape f ∧ outputs =
        [f.tensor f.probabilities, Tensor.scalar (narrow (f.totals.loss / f.totals.weight))] := by
  change lossForward targets scores = _ ↔ _
  unfold lossForward
  simp only [bind_eq_ok_iff, evaluate_eq_ok_iff, pure, Except.pure, Except.ok.injEq]
  constructor
  · rintro ⟨_, ⟨f, hf, rfl⟩, rfl⟩
    exact ⟨f, hf, rfl⟩
  · rintro ⟨f, hf, rfl⟩
    exact ⟨_, ⟨f, hf, rfl⟩, rfl⟩

theorem lossBackward_eq {f : Fitted S scores.shape} (hf : Fits targets scores.shape f)
    {outGradient : Tensor S} {g : S} (hg : onlyEntry outGradient = .ok g) :
    lossBackward targets outGradient scores = .ok (f.tensor
      (f.supervision.gradient (g / narrow (f.totals : Totals D).weight) f.probabilities)) := by
  unfold lossBackward
  refine bind_eq_ok_iff.mpr ⟨g, hg, bind_eq_ok_iff.mpr ⟨_, evaluate_eq_ok_iff.mpr ⟨f, hf, rfl⟩, ?_⟩⟩
  rfl

theorem probabilitiesBackward_eq {f : Fitted S scores.shape} (hf : Fits targets scores.shape f)
    (outEntries : Vector S (Shape.size scores.shape)) :
    probabilitiesBackward targets ⟨scores.shape, outEntries⟩ scores =
      .ok (f.tensor (softmaxBackwardLanes f.probabilities (f.split.lanes outEntries))) := by
  unfold probabilitiesBackward
  refine bind_eq_ok_iff.mpr ⟨outEntries, expectShape_eq_ok_iff.mpr rfl, ?_⟩
  exact bind_eq_ok_iff.mpr ⟨_, evaluate_eq_ok_iff.mpr ⟨f, hf, rfl⟩, rfl⟩

end Outputs

end CrossEntropy
