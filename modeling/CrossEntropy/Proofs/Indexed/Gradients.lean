import CrossEntropy.Proofs.Check.Gradients
import CrossEntropy.Proofs.Exact
import CrossEntropy.Proofs.Indexed.Softmax

/-!
# Gradient checks by index

The check of gradients as a program that perturbs the scores in place, one coordinate after the
other. It puts every coordinate back, so that the operation is only ever evaluated on scores of
which at most one entry is another than it was.

* `objective`, `checkCoordinate`, `checkGradients`: every coordinate is perturbed twice and put
  back;
* `Perturbed`: scores with at most one entry a step up or down;
* `Operation.RendersNear`: an operation that may do anything on all others, and may stop;
* `checkCoordinate_eq`, `checkGradients_eq`: one coordinate, and all of them;
* **`checkGradients_perturbs`**: the program comes to the verdict of comparing each coordinate
  alone.
-/

namespace CrossEntropy.Indexed

open Scalar Precision

variable {S D : Type} [Scalar S] [Scalar D] [Precision S D]

/-- A shape error is a failure. -/
def refuse {α : Type} (x : Run ShapeError α) : Run (CheckFailure S D) α :=
  Option.map CrossEntropy.refuse x

/-! ## The program -/

/-- Half the squared norm of an output that must be there. -/
def objective (indexed : Operation S) (output : Nat) (scores : Tensor S) : Run ShapeError D := do
  let outputs ← indexed.forward scores
  let y ← access outputs[output]?
  return halfSquaredNorm y

/-- Compares the analytic with the numeric derivative by one coordinate, on scores that are
perturbed there and put back. -/
def checkCoordinate (indexed : Operation S) (scores : Tensor S) (output : Nat)
    (tolerances : Tolerances S D) (gradient perturbed : Tensor S) (k : Fin scores.size) :
    Run (CheckFailure S D) (Tensor S) := do
  let index := scores.index k
  let x := scores.entries.get k
  let h := tolerances.stepsize
  let perturbed ← access (write perturbed index (x + h))
  let above ← refuse (objective indexed output perturbed)
  let perturbed ← access (write perturbed index (x - h))
  let below ← refuse (objective indexed output perturbed)
  let perturbed ← access (write perturbed index x)
  let numeric := (above - below) / (widen (x + h) - widen (x - h))
  let g ← access (read gradient index)
  if close (widen g) numeric tolerances.gradient then return perturbed
  else settled (.error (.gradientMismatch index (widen g) numeric))

/-- Compares the backward pass of an output with centred differences, on one copy of the scores that
is perturbed and put back coordinate by coordinate. -/
def checkGradients (indexed : Operation S) (scores : Tensor S) (output : Nat)
    (tolerances : Tolerances S D) : Run (CheckFailure S D) Unit := do
  let y ← refuse do
    let outputs ← indexed.forward scores
    settled (outputOf output outputs)
  let gradient ← refuse (indexed.backward y scores output)
  let _ ← settled (CrossEntropy.refuse (gradient.expectShape "gradient" scores.shape))
  let _ ← Fin.foldlM scores.size (checkCoordinate indexed scores output tolerances gradient) scores

/-! ## Evaluations -/

/-- Scores of which at most one entry is a step up or down. -/
inductive Perturbed (scores : Tensor S) (h : S) : Tensor S → Prop
  | unchanged : Perturbed scores h scores
  | above (k : Fin scores.size) : Perturbed scores h (scores.replace k (scores.entries.get k + h))
  | below (k : Fin scores.size) : Perturbed scores h (scores.replace k (scores.entries.get k - h))

/-- Near the scores, what the other operation does; elsewhere anything, also to stop. -/
structure Operation.RendersNear (indexed : Operation S) (operation : CrossEntropy.Operation S)
    (scores : Tensor S) (h : S) : Prop where
  forward {x : Tensor S} (hx : Perturbed scores h x) :
    indexed.forward x = settled (operation.forward x)
  backward (outGradient : Tensor S) (output : Nat) :
    indexed.backward outGradient scores output =
      settled (operation.backward outGradient scores output)

theorem Operation.Renders.near {indexed : Operation S} {operation : CrossEntropy.Operation S}
    (hrenders : indexed.Renders operation) (scores : Tensor S) (h : S) :
    indexed.RendersNear operation scores h where
  forward _ := hrenders.forward _
  backward outGradient output := hrenders.backward outGradient scores output

/-- The scores themselves as the only output. -/
def identity : CrossEntropy.Operation ℚ where
  name := "identity"
  outputCount := 1
  forward x := .ok [x]
  backward outGradient _ _ := .ok outGradient

/-- The scores themselves, unless more than one entry is another than it was. -/
def identityNear (scores : Tensor ℚ) : Operation ℚ where
  outputCount := 1
  forward x :=
    let changed := (x.entries.toList.zip scores.entries.toList).filter fun (a, b) => a ≠ b
    if changed.length ≤ 1 then settled (.ok [x]) else none
  backward outGradient _ _ := settled (.ok outGradient)

/-! ## The verdict -/

theorem foldlM_forM {α : Type} {ε : Type} {β : Type} {f : β → α → Run ε β} {g : α → Except ε Unit}
    {b : β} (h : ∀ a, f b a = settled (g a >>= fun _ => .ok b)) (xs : List α) :
    xs.foldlM f b = settled (xs.forM g >>= fun _ => .ok b) := by
  induction xs with
  | nil => rfl
  | cons a xs ih =>
    rw [List.foldlM_cons, h]
    show _ = settled ((g a >>= fun _ => xs.forM g) >>= fun _ => .ok b)
    cases g a with
    | error e => rfl
    | ok _ => exact ih

section Verdict

variable {indexed : Operation S} {operation : CrossEntropy.Operation S} {scores : Tensor S}
  {output : Nat} {tolerances : Tolerances S D}
  (hrenders : indexed.RendersNear operation scores tolerances.stepsize)

include hrenders

theorem objective_eq {x : Tensor S} (hx : Perturbed scores tolerances.stepsize x)
    (houtput : ∀ outputs, operation.forward x = .ok outputs → output < outputs.length) :
    objective indexed output x =
      settled (CrossEntropy.objective operation output x : Except ShapeError D) := by
  unfold objective CrossEntropy.objective
  rw [hrenders.forward hx]
  apply settled_bind
  intro outputs houtputs
  have hlt := houtput outputs houtputs
  unfold outputOf
  rw [List.getElem?_eq_getElem hlt]
  rfl

theorem checkCoordinate_eq (houtput : ∀ x outputs, Perturbed scores tolerances.stepsize x →
      operation.forward x = .ok outputs → output < outputs.length)
    (g : Vector S scores.size) (k : Fin scores.size) :
    checkCoordinate indexed scores output tolerances ⟨scores.shape, g⟩ scores k =
      settled (CrossEntropy.checkCoordinate operation scores output tolerances g k >>= fun _ =>
        .ok scores) := by
  have habove := objective_eq hrenders (.above k) (houtput _ · (.above k))
  have hbelow := objective_eq hrenders (.below k) (houtput _ · (.below k))
  unfold checkCoordinate CrossEntropy.checkCoordinate centredDifference
  simp only [write_index, write_replace, replace_get, access_some, settled_ok_bind, habove, hbelow]
  cases CrossEntropy.objective operation output
      (scores.replace k (scores.entries.get k + tolerances.stepsize)) with
  | error e => rfl
  | ok above =>
    cases CrossEntropy.objective operation output
        (scores.replace k (scores.entries.get k - tolerances.stepsize)) with
    | error e => rfl
    | ok below =>
      have hread : read ⟨scores.shape, g⟩ (scores.index k) = some (g.get k) := read_unravel g k
      show access (read ⟨scores.shape, g⟩ (scores.index k)) >>= _ = _
      rw [hread, access_some, settled_ok_bind]
      let numeric : D := (above - below) / (widen (scores.entries.get k + tolerances.stepsize) -
        widen (scores.entries.get k - tolerances.stepsize))
      show (if close (widen (g.get k)) numeric tolerances.gradient then _ else _) =
        settled ((if close (widen (g.get k)) numeric tolerances.gradient then _ else _) >>= fun _ =>
          .ok scores)
      by_cases hclose : close (widen (g.get k)) numeric tolerances.gradient = true
      · rw [if_pos hclose, if_pos hclose]
        rfl
      · rw [if_neg hclose, if_neg hclose]
        rfl

/-- An output that is there is there for all perturbed scores, or the program would stop. -/
theorem checkGradients_eq
    (hkeeps : ∀ outputs, operation.forward scores = .ok outputs → output < outputs.length →
      ∀ x outputs', Perturbed scores tolerances.stepsize x → operation.forward x = .ok outputs' →
        output < outputs'.length) :
    checkGradients indexed scores output tolerances =
      settled (CrossEntropy.checkGradients operation scores output tolerances) := by
  have hy : refuse (indexed.forward scores >>= fun outputs => settled (outputOf output outputs)) =
      (settled (CrossEntropy.refuse (operation.forward scores >>= outputOf output)) :
        Run (CheckFailure S D) (Tensor S)) := by
    rw [hrenders.forward .unchanged]
    cases operation.forward scores <;> rfl
  unfold checkGradients CrossEntropy.checkGradients
  rw [hy]
  apply settled_bind
  intro y hfound
  rw [refuse_eq_ok_iff, outputOf_forward_eq_ok_iff] at hfound
  obtain ⟨outputs, hforward, hat⟩ := hfound
  have houtput := hkeeps outputs hforward (List.getElem?_eq_some_iff.mp hat).1
  rw [hrenders.backward]
  apply settled_bind
  intro gradient _
  apply settled_bind
  intro g hg
  rw [refuse_eq_ok_iff, expectShape_eq_ok_iff] at hg
  subst hg
  rw [Fin.foldlM_eq_foldlM_finRange, foldlM_forM (checkCoordinate_eq hrenders houtput g)]
  cases (List.finRange scores.size).forM
    (CrossEntropy.checkCoordinate operation scores output tolerances g) <;> rfl

/-- **Perturbing in place forgets nothing.** The operation is evaluated only on scores of which at
most one entry is a step up or down, since anything may happen on all others, and even a stop is not
seen. If it always has as many outputs, the program comes to the verdict of comparing every
coordinate alone: it passes exactly if all of them agree, and else reports what goes wrong first. -/
theorem checkGradients_perturbs
    (hcount : ∀ x x' outputs outputs', operation.forward x = .ok outputs →
      operation.forward x' = .ok outputs' → outputs.length = outputs'.length) :
    (checkGradients indexed scores output tolerances).run =
      some (CrossEntropy.checkGradients operation scores output tolerances) ∧
    (CrossEntropy.checkGradients operation scores output tolerances = .ok () ↔
      GradientPasses operation scores output tolerances) ∧
    ∀ failure, CrossEntropy.checkGradients operation scores output tolerances = .error failure ↔
      GradientFault operation scores output tolerances failure := by
  refine ⟨checkGradients_eq hrenders ?_, checkGradients_eq_ok_iff_passes,
    fun _ => checkGradients_eq_error_iff hcount⟩
  intro outputs hforward hlt x outputs' _ hforward'
  rwa [hcount x scores outputs' outputs hforward' hforward]

end Verdict

theorem checkGradients_perturbs_identity :
    letI := ExactScalar.rational
    let scores : Tensor ℚ := ⟨[2], #v[2, -1]⟩
    let tolerances : Tolerances ℚ ℚ := ⟨1 / 2, 0, 0, 0, 0⟩
    (identityNear scores).RendersNear identity scores tolerances.stepsize ∧
      (checkGradients (identityNear scores) scores 0 tolerances).run = some (.ok ()) := by
  let rational := ExactScalar.rational
  intro scores tolerances
  have hrenders : (identityNear scores).RendersNear identity scores tolerances.stepsize := by
    refine ⟨fun hx => if_pos ?_, fun _ _ => rfl⟩
    obtain _ | k | k := hx
    · decide +kernel
    · revert k
      decide +kernel
    · revert k
      decide +kernel
  have hcount : ∀ x x' outputs outputs', identity.forward x = .ok outputs →
      identity.forward x' = .ok outputs' → outputs.length = outputs'.length := by
    intro x x' outputs outputs' h h'
    cases h
    cases h'
    rfl
  have hok : CrossEntropy.checkGradients identity scores 0 tolerances = .ok () := by decide +kernel
  exact ⟨hrenders, (checkGradients_perturbs hrenders hcount).1.trans (congrArg some hok)⟩

end CrossEntropy.Indexed
