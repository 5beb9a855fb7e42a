import CrossEntropy.Decimal
import CrossEntropy.Scalar
import CrossEntropy.Tensor

/-!
# Checks of an operation

An operation can disagree with its reference or with itself. Its outputs are compared with those of
the reference, its probabilities are held against what a distribution is, and the gradient that its
backward pass gives is compared with centred differences, one coordinate at a time. The objective is
half the squared norm of an output, so that its gradient with respect to the output is the output
itself.

* `CheckFailure`, `CheckFailure.message`: what a check can find, and what is told about it;
* `Tolerances`, `Tolerances.standard`: step size and thresholds of the checks;
* `checkOutput`, `checkReference`: one output against its reference, and all of them;
* `checkDistribution`, `checkSimplexes`: one distribution, and a list of them;
* `objective`, `centredDifference`, `checkGradients`: the backward pass against differences.
-/

namespace CrossEntropy

/-! ## Failures -/

/-- How an operation can disagree with its reference or with itself. -/
inductive CheckFailure (S D : Type)
  /-- An entry of an output is not close to the reference's. -/
  | referenceMismatch (output : Nat) (index : List Nat) (actual expected : D)
  /-- An output has another shape than the reference. -/
  | outputShape (output : Nat) (expected actual : Shape)
  /-- There are more or fewer outputs than references. -/
  | outputCount (expected actual : Nat)
  /-- A distribution does not sum to one. -/
  | simplexSum (distribution : Nat) (sum : S)
  /-- A distribution has a negative entry. -/
  | simplexNegative (distribution : Nat) (value : S)
  /-- An entry of the gradient is not close to the centred difference. -/
  | gradientMismatch (index : List Nat) (analytic numeric : D)
  /-- The inputs do not fit together. -/
  | shape (error : ShapeError)
  deriving DecidableEq, Repr

/-- The result of a check. -/
abbrev Checked (S D α : Type) := Except (CheckFailure S D) α

/-- A shape error is a failure. -/
def refuse {S D α : Type} (r : Except ShapeError α) : Checked S D α :=
  r.mapError .shape

/-- What is told about a failed check. -/
def CheckFailure.message : CheckFailure Float32 Float → String
  | referenceMismatch output index actual expected =>
    s!"output {output} at " ++ Shape.text index ++ ": operator gave " ++ textOfDouble actual ++
      ", reference gave " ++ textOfDouble expected
  | outputShape output expected actual =>
    s!"output {output} has shape " ++ Shape.text actual ++ ", reference has " ++
      Shape.text expected
  | outputCount expected actual =>
    s!"expected {expected} outputs, operator produced {actual}"
  | simplexSum distribution sum =>
    s!"distribution {distribution} sums to " ++ textOfSingle sum
  | simplexNegative distribution value =>
    s!"distribution {distribution} has negative entry " ++ textOfSingle value
  | gradientMismatch index analytic numeric =>
    "gradient at " ++ Shape.text index ++ ": analytic " ++ textOfDouble analytic ++
      ", numeric " ++ textOfDouble numeric
  | shape error => error.message

/-! ## Tolerances -/

/-- Step size and thresholds of the checks. -/
structure Tolerances (S D : Type) where
  /-- The step of centred differences. -/
  stepsize : S
  /-- Absolute and relative threshold for gradients. -/
  gradient : D
  /-- Threshold for probabilities against the reference. -/
  reference : D
  /-- Threshold for average losses against the reference. -/
  loss : D
  /-- How far from one a distribution's sum may stray. -/
  simplex : S

/-- The tolerances for binary floating point. -/
def Tolerances.standard : Tolerances Float32 Float where
  stepsize := 1e-4
  gradient := 1e-2
  reference := 1e-4
  loss := 1e-2
  simplex := 1e-5

/-! ## Outputs -/

section Outputs

open Precision

variable {S D : Type} [Scalar D] [Precision S D]

/-- Compares an output with its reference: the shapes, then the entries in row-major order. -/
@[specialize] def checkOutput (number : Nat) (output : Tensor S) (reference : Tensor D)
    (threshold : D) : Checked S D Unit :=
  if h : reference.shape = output.shape then
    let expected := reference.reshape h
    let agree := Vector.zipWith (fun a e => close (widen a) e threshold) output.entries expected
    match agree.findFinIdx? (!·) with
    | none => .ok ()
    | some k =>
      .error (.referenceMismatch number (output.index k) (widen (output.entries.get k))
        (expected.get k))
  else .error (.outputShape number reference.shape output.shape)

/-- Runs an operation and compares each output with the reference of its number, up to the
threshold of its number. -/
@[specialize] def checkReference (operation : Operation S) (scores : Tensor S)
    (references : List (Tensor D)) (thresholds : List D) : Checked S D Unit := do
  let outputs ← refuse (operation.forward scores)
  if outputs.length ≠ references.length then
    throw (.outputCount references.length outputs.length)
  ((outputs.zip references).zip thresholds).zipIdx.forM fun (((output, reference), threshold), k) =>
    checkOutput k output reference threshold

end Outputs

/-! ## Distributions -/

section Distributions

open Scalar

variable {S D : Type} [Scalar S]

/-- Checks one distribution: first for negative entries, then its sum from the left. -/
@[specialize] def checkDistribution (number : Nat) (probabilities : List S) (tolerance : S) :
    Checked S D Unit :=
  match probabilities.find? (lt · 0) with
  | some value => .error (.simplexNegative number value)
  | none =>
    let sum := probabilities.foldl (· + ·) 0
    if relativelyClose sum 1 0 tolerance then .ok () else .error (.simplexSum number sum)

/-- Checks the distributions of a list in their order. -/
@[specialize] def checkSimplexes (distributions : List (List S)) (tolerance : S) :
    Checked S D Unit :=
  distributions.zipIdx.forM fun (probabilities, number) =>
    checkDistribution number probabilities tolerance

end Distributions

/-! ## Gradients -/

section Gradients

open Scalar Precision

variable {S D : Type} [Scalar S] [Scalar D] [Precision S D]

/-- Half the squared norm of a tensor, summed from the left. -/
@[specialize] def halfSquaredNorm (y : Tensor S) : D :=
  y.entries.foldl (fun sum v => sum + widen v * widen v / ofNat 2) 0

/-- The output of a number. -/
def outputOf (output : Nat) (outputs : List (Tensor S)) : Except ShapeError (Tensor S) :=
  match outputs[output]? with
  | some y => .ok y
  | none => .error (.noSuchOutput output)

/-- Half the squared norm of an output, as a function of the scores. -/
@[specialize] def objective (operation : Operation S) (output : Nat) (scores : Tensor S) :
    Except ShapeError D := do
  return halfSquaredNorm (← outputOf output (← operation.forward scores))

/-- The difference of the objective on both sides of a coordinate, over the step actually taken,
which rounding can make a little different from twice the step size. -/
@[specialize] def centredDifference (operation : Operation S) (scores : Tensor S) (output : Nat)
    (h : S) (k : Fin scores.size) : Except ShapeError D := do
  let x := scores.entries.get k
  let above ← objective operation output (scores.replace k (x + h))
  let below ← objective operation output (scores.replace k (x - h))
  return (above - below) / (widen (x + h) - widen (x - h))

/-- Compares the analytic with the numeric derivative by one coordinate. -/
@[specialize] def checkCoordinate (operation : Operation S) (scores : Tensor S) (output : Nat)
    (tolerances : Tolerances S D) (gradient : Vector S scores.size) (k : Fin scores.size) :
    Checked S D Unit := do
  let numeric ← refuse (centredDifference operation scores output tolerances.stepsize k)
  let analytic := widen (gradient.get k)
  if close analytic numeric tolerances.gradient then return
  else throw (.gradientMismatch (scores.index k) analytic numeric)

/-- Compares the backward pass of an output with centred differences at every coordinate of the
scores, in row-major order. -/
@[specialize] def checkGradients (operation : Operation S) (scores : Tensor S) (output : Nat)
    (tolerances : Tolerances S D) : Checked S D Unit := do
  let y ← refuse (operation.forward scores >>= outputOf output)
  let gradient ← refuse (operation.backward y scores output)
  let entries ← refuse (gradient.expectShape "gradient" scores.shape)
  (List.finRange scores.size).forM (checkCoordinate operation scores output tolerances entries)

end Gradients

end CrossEntropy
