import CrossEntropy.Scalar
import CrossEntropy.Split

/-!
# The softmax operation

Softmax turns a distribution's scores `x` into probabilities `exp x_i / Σ_j exp x_j`. The largest
score is first shifted to zero, so that `exp` cannot overflow; adding a constant to all scores
does not change the probabilities.

* `softmaxLane`, `softmaxBackwardLane`: both passes on one distribution;
* `softmaxForward`, `softmaxBackward`: on every distribution of a tensor from an axis on;
* `softmax`: the operation.
-/

namespace CrossEntropy

open Scalar

variable {S : Type} [Scalar S] {d n : Nat}

/-- The sum of the entries, from the left. -/
@[specialize] def total (x : Vector S d) : S := x.foldl (· + ·) 0

/-- The largest entry. Where there is no bottom to start from, the first entry is the start. -/
@[specialize] def largest (x : Vector S d) : S :=
  x.foldl larger (bottom?.getD (x[0]?.getD 0))

/-- The probabilities of one distribution's scores. -/
@[specialize] def softmaxLane (x : Vector S d) : Vector S d :=
  let shift := largest x
  let exponentials := x.map fun score => exp (score - shift)
  let scale := total exponentials
  exponentials.map (· / scale)

/-- The gradient with respect to one distribution's scores.

The derivative of probability `p_i` by score `j` is `p_i * (δ i j - p_j)`. Its product with the
out-gradient `g` is `p_j * (g_j - Σ_i g_i * p_i)`, which needs no matrix. -/
@[specialize] def softmaxBackwardLane (probabilities outGradient : Vector S d) : Vector S d :=
  let projection := total (Vector.zipWith (· * ·) probabilities outGradient)
  Vector.zipWith (fun p g => p * (g - projection)) probabilities outGradient

/-- The probabilities of every distribution. -/
@[specialize] def softmaxLanes (x : Vector (Vector S d) n) : Vector (Vector S d) n :=
  x.map softmaxLane

/-- The gradient with respect to the scores of every distribution. -/
@[specialize] def softmaxBackwardLanes (probabilities outGradient : Vector (Vector S d) n) :
    Vector (Vector S d) n :=
  Vector.zipWith softmaxBackwardLane probabilities outGradient

/-- Softmax over everything from `axis` on. -/
@[specialize] def softmaxForward (axis : Nat) (scores : Tensor S) :
    Except ShapeError (Tensor S) := do
  let rows ← Split.rows scores.shape axis
  return ⟨scores.shape, rows.join (softmaxLanes (rows.lanes scores.entries))⟩

/-- The gradient of softmax over everything from `axis` on. -/
@[specialize] def softmaxBackward (axis : Nat) (outGradient scores : Tensor S) :
    Except ShapeError (Tensor S) := do
  let outEntries ← outGradient.expectShape "out_gradient" scores.shape
  let rows ← Split.rows scores.shape axis
  let probabilities := softmaxLanes (rows.lanes scores.entries)
  return ⟨scores.shape, rows.join (softmaxBackwardLanes probabilities (rows.lanes outEntries))⟩

/-- The softmax operation over everything from `axis` on. -/
@[specialize] def softmax (axis : Nat) : Operation S where
  name := "Softmax"
  outputCount := 1
  forward scores := do return [← softmaxForward axis scores]
  backward outGradient scores output :=
    if output = 0 then softmaxBackward axis outGradient scores
    else .error (.noSuchOutput output)

/-- The axis of a batch's classes. -/
def defaultAxis : Nat := 1

end CrossEntropy
