import CrossEntropy.Label
import CrossEntropy.Softmax

/-!
# Softmax with cross-entropy loss

Softmax along the class axis, followed by the average cross-entropy of the probabilities against
targets. A location is a row of a matrix or a pixel of an image batch.

* `Targets`: what the probabilities are held against, as it is given;
* `Supervision`: the same for `n` locations and `d` classes, once it is known to fit the scores;
* `Targets.resolve`: from one to the other, or the first thing that does not fit;
* `Supervision.totals`: total loss and total weight;
* `Supervision.gradient`: the gradient of the average loss;
* `softmaxWithLoss`: the operation. Output 0 is the probabilities, output 1 the average loss.
-/

namespace CrossEntropy

open Scalar Precision

/-- What probabilities are held against. -/
inductive Targets (S : Type)
  /-- One class per row of a matrix. -/
  | labels (labels : Tensor Int32)
  /-- A distribution over the classes per row of a matrix. -/
  | distributions (targets : Tensor S)
  /-- One class, or the ignored label, per pixel of an image batch, with optional weights. -/
  | pixels (labels : Tensor Int32) (weights : Option (Tensor S))

/-- Targets for `n` locations and `d` classes. -/
inductive Supervision (S : Type) (n d : Nat)
  | labels (classes : Vector (Fin d) n)
  | distributions (targets : Vector (Vector S d) n)
  /-- The class and the weight of every location that counts. -/
  | pixels (marks : Vector (Option (Fin d × S)) n)

/-- The loss of all locations together, and their weight. -/
structure Totals (D : Type) where
  loss : D
  weight : D

section Kernel

variable {S D : Type} [Scalar S] [Scalar D] [Precision S D] {n d : Nat}

/-- The logarithm of a probability, floored. -/
@[specialize] def logProbability (p : S) : S := ln (larger p logFloor)

/-- The floored logarithm of the probability of a class. -/
@[specialize] def classLog (p : Vector S d) (c : Fin d) : D := widen (logProbability (p.get c))

/-- `start - Σ_c t_c * ln p_c`, where each product is rounded in working precision. -/
@[specialize] def lessWeightedLogs (start : D) (targets p : Vector S d) : D :=
  (Vector.zipWith (fun t q => t * logProbability q) targets p).foldl
    (fun loss term => loss - widen term) start

/-- **Total loss and weight.** Rows weigh one each, pixels what their marks say. The empty loss
over labels is `-0`, so that a loss without any cost keeps its sign. -/
@[specialize] def Supervision.totals (p : Vector (Vector S d) n) :
    Supervision S n d → Totals D
  | labels classes =>
    { loss := (Vector.zipWith classLog p classes).foldl (fun loss log => loss + -log) (-0)
      weight := ofNat n }
  | distributions targets =>
    { loss := (Vector.zipWith Prod.mk targets p).foldl
        (fun loss row => lessWeightedLogs loss row.1 row.2) 0
      weight := ofNat n }
  | pixels marks =>
    { loss := (Vector.zipWith Prod.mk marks p).foldl
        (fun loss pixel => match pixel.1 with
          | none => loss
          | some (c, weight) => loss - widen weight * classLog pixel.2 c) 0
      weight := marks.foldl
        (fun total mark => match mark with
          | none => total
          | some (_, weight) => total + widen weight) 0 }

/-- Row gradient for a class `c`: `(p_j - δ j c) * scale`. -/
@[specialize] def labelGradient (scale : S) (p : Vector S d) (c : Fin d) : Vector S d :=
  Vector.ofFn fun j => (if j = c then p.get j - 1 else p.get j) * scale

/-- Row gradient for a target distribution `t`, which need not sum to one:
`(p_j * Σ_k t_k - t_j) * scale`. -/
@[specialize] def distributionGradient (scale : S) (p targets : Vector S d) : Vector S d :=
  let mass := total targets
  Vector.zipWith (fun q t => (q * mass - t) * scale) p targets

/-- Pixel gradient: as for a row, weighted, and nothing at an ignored pixel. -/
@[specialize] def markGradient (scale : S) (p : Vector S d) :
    Option (Fin d × S) → Vector S d
  | none => Vector.replicate d 0
  | some (c, weight) =>
    Vector.ofFn fun j => scale * weight * (p.get j - if j = c then 1 else 0)

/-- **The gradient of the average loss** with respect to the scores, for probabilities `p`.
`scale` is the gradient with respect to the average, over the total weight. -/
@[specialize] def Supervision.gradient (scale : S) (p : Vector (Vector S d) n) :
    Supervision S n d → Vector (Vector S d) n
  | labels classes => Vector.zipWith (labelGradient scale) p classes
  | distributions targets => Vector.zipWith (distributionGradient scale) p targets
  | pixels marks => Vector.zipWith (markGradient scale) p marks

end Kernel

/-! ## Targets that fit the scores -/

section Resolve

variable {S : Type} [Scalar S]

/-- Targets that fit scores of a shape: the lanes of the classes, and the target of each. -/
structure Fitted (S : Type) (shape : Shape) where
  split : Split (Shape.size shape)
  supervision : Supervision S split.count split.classes

/-- The weight of every counted location, one where no weights are given. -/
@[specialize] def weighMarks {n d : Nat} (marks : Vector (Option (Fin d)) n)
    (weights : Option (Vector S n)) : Vector (Option (Fin d × S)) n :=
  match weights with
  | none => marks.map fun mark => mark.map fun c => (c, 1)
  | some weights => Vector.zipWith (fun mark weight => mark.map fun c => (c, weight)) marks weights

/-- The entries of optional weights, which must have the shape of the labels. -/
@[specialize] def expectWeights (shape : Shape) :
    Option (Tensor S) → Except ShapeError (Option (Vector S (Shape.size shape)))
  | none => return none
  | some weights => return some (← weights.expectShape "weights" shape)

/-- Fits targets to scores of a shape, or tells the first thing that is wrong: the rank of the
scores, the shape of labels or targets, the shape of weights, a label, the lack of classes. -/
@[specialize] def Targets.resolve : Targets S → (shape : Shape) →
    Except ShapeError (Fitted S shape)
  | labels given, [n, d] => do
    let entries ← given.expectShape "labels" [n]
    let classes ← readLabels d (classOf? d) ⟨[n], entries⟩
    if d = 0 then throw (.noClasses [n, d])
    return ⟨Split.classAxis n d [], .labels classes⟩
  | distributions given, [n, d] => do
    let entries ← given.expectShape "targets" [n, d]
    if d = 0 then throw (.noClasses [n, d])
    return ⟨Split.classAxis n d [], .distributions ((Split.classAxis n d []).lanes entries)⟩
  | pixels given weights, [n, d, h, w] => do
    let entries ← given.expectShape "labels" [n, h, w]
    let weights ← expectWeights [n, h, w] weights
    let marks ← readLabels d (markOf? d) ⟨[n, h, w], entries⟩
    if d = 0 then throw (.noClasses [n, d, h, w])
    return ⟨Split.classAxis n d [h, w], .pixels (weighMarks marks weights)⟩
  | pixels .., shape => throw (.wrongRank 4 shape)
  | _, shape => throw (.wrongRank 2 shape)

end Resolve

/-! ## The operation -/

section Operation

variable {S D : Type} [Scalar S] [Scalar D] [Precision S D]

/-- What targets make of scores: which lanes and targets there are, and the results. -/
structure Evaluation (S : Type) (shape : Shape) where
  fitted : Fitted S shape
  /-- The probabilities of every location. -/
  probabilities : Vector (Vector S fitted.split.classes) fitted.split.count
  averageLoss : S
  totalWeight : S

/-- The tensor of given lanes. -/
@[inline] def Fitted.tensor {shape : Shape} (f : Fitted S shape)
    (lanes : Vector (Vector S f.split.classes) f.split.count) : Tensor S :=
  ⟨shape, f.split.join lanes⟩

/-- Probabilities, average loss and total weight. -/
@[specialize] def Targets.evaluate (targets : Targets S) (scores : Tensor S) :
    Except ShapeError (Evaluation S scores.shape) := do
  let fitted ← targets.resolve scores.shape
  let probabilities := softmaxLanes (fitted.split.lanes scores.entries)
  let totals : Totals D := fitted.supervision.totals probabilities
  return ⟨fitted, probabilities, narrow (totals.loss / totals.weight), narrow totals.weight⟩

/-- Whether targets are for the pixels of images. -/
def Targets.isSpatial : Targets S → Bool
  | pixels .. => true
  | _ => false

/-- The two outputs: the probabilities and the average loss. -/
@[specialize] def lossForward (targets : Targets S) (scores : Tensor S) :
    Except ShapeError (List (Tensor S)) := do
  let e ← targets.evaluate scores
  return [e.fitted.tensor e.probabilities, Tensor.scalar e.averageLoss]

/-- The gradient of an objective from its gradient with respect to the probabilities. -/
@[specialize] def probabilitiesBackward (targets : Targets S) (outGradient scores : Tensor S) :
    Except ShapeError (Tensor S) := do
  let outEntries ← outGradient.expectShape "out_gradient" scores.shape
  let e ← targets.evaluate scores
  return e.fitted.tensor (softmaxBackwardLanes e.probabilities (e.fitted.split.lanes outEntries))

/-- The gradient of an objective from its gradient with respect to the average loss. -/
@[specialize] def lossBackward (targets : Targets S) (outGradient scores : Tensor S) :
    Except ShapeError (Tensor S) := do
  let g ← onlyEntry outGradient
  let e ← targets.evaluate scores
  return e.fitted.tensor (e.fitted.supervision.gradient (g / e.totalWeight) e.probabilities)

/-- Softmax followed by the average cross-entropy against targets. -/
@[specialize] def softmaxWithLoss (targets : Targets S) : Operation S where
  name := if targets.isSpatial then "SpatialSoftmaxWithLoss" else "SoftmaxWithLoss"
  outputCount := 2
  forward := lossForward targets
  backward outGradient scores output :=
    match output with
    | 0 => probabilitiesBackward targets outGradient scores
    | 1 => lossBackward targets outGradient scores
    | _ => .error (.noSuchOutput output)

end Operation

end CrossEntropy
