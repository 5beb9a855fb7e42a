import CrossEntropy.Random.Normal
import CrossEntropy.Random.Uniform
import CrossEntropy.Softmax
import CrossEntropy.Suite.Case

/-!
# Random inputs

Tensors are drawn entry by entry, in row-major order.

* `Sampled S`: how single numbers are drawn;
* `Draw.uniformScores`, `Draw.normalScores`, `Draw.weights`, `Draw.labels`, `Draw.softLabels`;
* `Case.generate`: the inputs of one example.
-/

namespace CrossEntropy

/-- How single numbers of a precision are drawn. -/
class Sampled (S : Type) where
  /-- A number from `low` on and below `high`. -/
  uniform {σ : Type} [Source σ] (low high : S) : Draw σ S
  /-- A sample of the standard normal distribution. -/
  normal {σ : Type} [Source σ] : Draw σ S
  /-- Scores are kept this little way off zero. -/
  offset : S

instance : Sampled Float32 where
  uniform low high := Draw.single low high
  normal := do return (← Draw.normal).toFloat32
  offset := 1e-2

namespace Draw

variable {σ S : Type} [Source σ] [Scalar S] [Sampled S]

/-- A tensor of a shape with drawn entries. -/
@[specialize] def tensor {α : Type} (shape : Shape) (draw : Draw σ α) : Draw σ (Tensor α) := do
  return ⟨shape, ← many (Shape.size shape) draw⟩

/-- Scores uniform on `[0, 1)`, off zero. -/
@[specialize] def uniformScores (shape : Shape) : Draw σ (Tensor S) := do
  return (← tensor shape (Sampled.uniform 0 1)).map (· + Sampled.offset)

/-- Standard normal scores, off zero. -/
@[specialize] def normalScores (shape : Shape) : Draw σ (Tensor S) := do
  return (← tensor shape Sampled.normal).map (· + Sampled.offset)

/-- A tensor of labels in a range. -/
@[specialize] def labels (shape : Shape) (range : IntRange) : Draw σ (Tensor Int32) :=
  tensor shape (int32 range)

/-- Weights uniform on `[0, 1)`. -/
@[specialize] def weights (shape : Shape) : Draw σ (Tensor S) :=
  tensor shape (Sampled.uniform 0 1)

/-- Entries over their sum. -/
@[specialize] def normalized {d : Nat} (x : Vector S d) : Vector S d :=
  let mass := total x
  x.map (· / mass)

/-- A random distribution over the classes for each row. -/
@[specialize] def softLabels (rows classes : Nat) : Draw σ (Tensor S) := do
  let drawn ← many (Shape.size [rows, classes]) (Sampled.uniform (Sampled.offset : S) 1)
  let split := Split.classAxis rows classes []
  return ⟨[rows, classes], split.join ((split.lanes drawn).map normalized)⟩

end Draw

/-! ## Ranges of labels -/

/-- The labels of `classes` classes from `low` on. The number of classes is taken as a signed
32-bit number, so that with too many of them the range can be empty. -/
def labelRange? (low : Int32) (classes : Nat) : Option IntRange :=
  IntRange.of? low (.ofNat classes)

theorem lt_ofNat_classes : ∀ classes : Fin 17, 0 < classes.val →
    (0 : Int32) < Int32.ofNat classes ∧ (-1 : Int32) < Int32.ofNat classes := by decide

/-- The labels of a few classes. -/
def labelRange {classes : Nat} (h : 0 < classes ∧ classes ≤ 16) : IntRange :=
  ⟨0, .ofNat classes, (lt_ofNat_classes ⟨classes, by omega⟩ h.1).1⟩

/-- The labels of a few classes, and the ignored label. -/
def labelRangeWithIgnored {classes : Nat} (h : 0 < classes ∧ classes ≤ 16) : IntRange :=
  ⟨-1, .ofNat classes, (lt_ofNat_classes ⟨classes, by omega⟩ h.1).2⟩

/-! ## Inputs of an example -/

section Generate

variable {σ S : Type} [Source σ] [Scalar S] [Sampled S]

/-- Inputs that consist of scores alone. -/
def CaseInputs.ofScores (scores : Tensor S) : CaseInputs S := ⟨scores, none, none, none⟩

/-- The numbers of rows and classes of a random matrix. -/
@[specialize] def Draw.matrixSizes :
    Draw σ ({n : Nat // 2 ≤ n ∧ n ≤ 10} × {d : Nat // 4 ≤ d ∧ d ≤ 16}) := do
  let n ← size 2 10 (by decide)
  let d ← size 4 16 (by decide)
  return (n, d)

/-- A batch of images with labels, some of them ignored, and weights if wanted. -/
@[specialize] def Draw.spatialInputs (n d h w : Nat) (hd : 0 < d ∧ d ≤ 16) (weighted : Bool) :
    Draw σ (CaseInputs S) := do
  let scores ← uniformScores [n, d, h, w]
  let labels ← labels [n, h, w] (labelRangeWithIgnored hd)
  let inputs := { CaseInputs.ofScores scores with labels := some labels }
  if weighted then
    let drawn ← weights [n, h, w]
    return { inputs with weights := some drawn }
  else return inputs

/-- The height and width of the images of a spatial example. -/
def spatialSides : Nat × Nat := (12, 18)

/-- The inputs of one example of a case. -/
@[specialize] def Case.generate : Case → Draw σ (CaseInputs S)
  | softmax => do
    let (n, d) ← Draw.matrixSizes
    return .ofScores (← Draw.uniformScores [n.1, d.1])
  | softmaxAxis _ => do
    return .ofScores (← Draw.normalScores [1, 2, 3, 2, 1])
  | softmaxWithLoss => do
    let (n, ⟨d, hd⟩) ← Draw.matrixSizes
    let scores ← Draw.uniformScores [n.1, d]
    let labels ← Draw.labels [n.1] (labelRange ⟨by omega, hd.2⟩)
    return { CaseInputs.ofScores scores with labels := some labels }
  | softLabelSoftmaxWithLoss => do
    let (n, d) ← Draw.matrixSizes
    let scores ← Draw.uniformScores [n.1, d.1]
    let targets ← Draw.softLabels n.1 d.1
    return { CaseInputs.ofScores scores with targets := some targets }
  | spatialSoftmaxWithLoss => do
    let n ← Draw.size 2 5 (by decide)
    let ⟨d, hd⟩ ← Draw.size 2 4 (by decide)
    let weighted ← Draw.coin
    Draw.spatialInputs n.1 d spatialSides.1 spatialSides.2 ⟨by omega, by omega⟩ weighted
  | largeSpatialSoftmaxWithLoss => do
    let h ← Draw.size 64 255 (by decide)
    let w ← Draw.size 64 255 (by decide)
    Draw.spatialInputs 8 4 h.1 w.1 (by decide) false

end Generate

end CrossEntropy
