import CrossEntropy.Check
import CrossEntropy.Loss
import CrossEntropy.Reference
import CrossEntropy.Suite.Case

/-!
# Checking one example

* `Subject`: the operation of an example and what its outputs are held against;
* `Case.subject`: the subject of a case's inputs;
* `Case.distributions`: the probabilities cut into distributions;
* `checkCase`: every check that a case calls for.
-/

namespace CrossEntropy

open Precision

variable {S D : Type} [Scalar S] [Scalar D] [Precision S D]

/-- An operation and the reference for each of its outputs. -/
structure Subject (S D : Type) where
  operation : Operation S
  references : List (Tensor D)

/-- The operation and references of a case's inputs. -/
@[specialize] def Case.subject (case : Case) (inputs : CaseInputs S) :
    Except ShapeError (Subject S D) :=
  let scores := inputs.scores.map widen
  match case with
  | softmax => do
    return ⟨CrossEntropy.softmax defaultAxis, [← Reference.softmaxAxis defaultAxis scores]⟩
  | softmaxAxis axis => do
    return ⟨CrossEntropy.softmax axis.toNat, [← Reference.softmaxAxis axis.toNat scores]⟩
  | softmaxWithLoss => do
    let labels ← required "labels" inputs.labels
    labels.expectRank 1
    let (probabilities, loss) ← Reference.softmaxCrossEntropy scores labels
    return ⟨CrossEntropy.softmaxWithLoss (.labels labels), [probabilities, Tensor.scalar loss]⟩
  | softLabelSoftmaxWithLoss => do
    let targets ← required "targets" inputs.targets
    targets.expectRank 2
    let (probabilities, loss) ← Reference.softLabelCrossEntropy scores (targets.map widen)
    return ⟨CrossEntropy.softmaxWithLoss (.distributions targets),
      [probabilities, Tensor.scalar loss]⟩
  | spatialSoftmaxWithLoss | largeSpatialSoftmaxWithLoss => do
    let labels ← required "labels" inputs.labels
    labels.expectRank 3
    inputs.weights.forM (Tensor.expectRank 3)
    let (probabilities, loss) ←
      Reference.spatialSoftmaxCrossEntropy scores labels (inputs.weights.map (·.map widen))
    return ⟨CrossEntropy.softmaxWithLoss (.pixels labels inputs.weights),
      [probabilities, Tensor.scalar loss]⟩

/-- The lanes of a tensor under a split, as lists. -/
def laneLists {α : Type} (x : Tensor α) (s : Split x.size) : List (List α) :=
  (s.lanes x.entries).toList.map Vector.toList

/-- The distributions of a case's probabilities: rows of everything from the axis on for softmax
alone, lanes along the class axis otherwise. -/
def Case.distributions (case : Case) (probabilities : Tensor S) :
    Except ShapeError (List (List S)) :=
  match case.softmaxAxis? with
  | some axis => do return laneLists probabilities (← Split.rows probabilities.shape axis)
  | none =>
    match Split.along probabilities.shape defaultAxis with
    | some lanes => .ok (laneLists probabilities lanes)
    | none => .error (.axisOutOfRange defaultAxis probabilities.shape.length)

/-- Runs every check that a case calls for: outputs against the reference, probabilities for
being distributions, and the gradient of the last output, which is the loss if there is one. -/
@[specialize] def checkCase (case : Case) (inputs : CaseInputs S) (tolerances : Tolerances S D) :
    Checked S D Unit := do
  let subject ← refuse (case.subject inputs)
  checkReference subject.operation inputs.scores subject.references
    [tolerances.reference, tolerances.loss]
  let probabilities ← refuse (subject.operation.forward inputs.scores >>= outputOf 0)
  let distributions ← refuse (case.distributions probabilities)
  checkSimplexes distributions tolerances.simplex
  if case.isGradientChecked then
    checkGradients subject.operation inputs.scores (subject.operation.outputCount - 1) tolerances

end CrossEntropy
