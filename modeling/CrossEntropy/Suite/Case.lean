import CrossEntropy.Decimal
import CrossEntropy.Tensor

/-!
# Cases

A case is a recipe for random inputs, with the checks to run on them.

* `Case`, `Case.all`: the cases, and those that a full run consists of;
* `Case.name`, `Case.ofName?`: their names, and the case of a name;
* `CaseInputs`, `CaseInputs.map`: everything that one example of a case feeds its operation.
-/

namespace CrossEntropy

/-- A recipe for random inputs and the checks to run on them. -/
inductive Case
  /-- Row-wise softmax of a matrix. -/
  | softmax
  /-- Softmax of a tensor over everything from an axis on. -/
  | softmaxAxis (axis : UInt64)
  /-- Softmax with cross-entropy against one label per row. -/
  | softmaxWithLoss
  /-- Softmax with cross-entropy against a distribution per row. -/
  | softLabelSoftmaxWithLoss
  /-- Per-pixel softmax with cross-entropy, some labels ignored, sometimes weighted. -/
  | spatialSoftmaxWithLoss
  /-- The same on images too large for gradient checks. -/
  | largeSpatialSoftmaxWithLoss
  deriving DecidableEq, Repr

namespace Case

/-- The cases of a full run. -/
def all : List Case :=
  [softmax, softmaxAxis 1, softmaxAxis 2, softmaxAxis 3, softmaxAxis 4, softmaxWithLoss,
    softLabelSoftmaxWithLoss, spatialSoftmaxWithLoss, largeSpatialSoftmaxWithLoss]

/-- What the names of the axis cases start with. -/
def axisStem : String := "softmax_axis_"

/-- The name of a case. -/
def name : Case → String
  | softmax => "softmax"
  | softmaxAxis axis => axisStem ++ wordText axis
  | softmaxWithLoss => "softmax_with_loss"
  | softLabelSoftmaxWithLoss => "soft_label_softmax_with_loss"
  | spatialSoftmaxWithLoss => "spatial_softmax_with_loss"
  | largeSpatialSoftmaxWithLoss => "large_spatial_softmax_with_loss"

/-- What follows `stem` in `text`. -/
def afterStem? : (stem text : List Char) → Option (List Char)
  | [], rest => some rest
  | s :: stem, c :: text => if s = c then afterStem? stem text else none
  | _ :: _, [] => none

/-- The case of a name. An axis may be written with a plus sign and leading zeros. -/
def ofName? (name : String) : Option Case :=
  match afterStem? axisStem.toList name.toList with
  | some axis => (parseWord? (String.ofList axis)).map softmaxAxis
  | none => all.find? fun case => case.name = name

/-- Whether gradients are checked in a case. -/
def isGradientChecked : Case → Bool
  | largeSpatialSoftmaxWithLoss => false
  | _ => true

/-- The axis of the cases that check softmax alone. -/
def softmaxAxis? : Case → Option Nat
  | softmax => some 1
  | softmaxAxis axis => some axis.toNat
  | _ => none

end Case

/-! ## Inputs -/

/-- Inputs of one example, with entries in `α`. -/
structure CaseInputs (α : Type) where
  scores : Tensor α
  labels : Option (Tensor Int32)
  targets : Option (Tensor α)
  weights : Option (Tensor α)
  deriving DecidableEq, Repr

namespace CaseInputs

/-- The same inputs with other entries. -/
def map {α β : Type} (f : α → β) (inputs : CaseInputs α) : CaseInputs β where
  scores := inputs.scores.map f
  labels := inputs.labels
  targets := inputs.targets.map (·.map f)
  weights := inputs.weights.map (·.map f)

end CaseInputs

/-- An input that a case needs. -/
def required {α : Type} (input : String) : Option (Tensor α) → Except ShapeError (Tensor α)
  | some x => .ok x
  | none => .error (.missingInput input)

end CrossEntropy
