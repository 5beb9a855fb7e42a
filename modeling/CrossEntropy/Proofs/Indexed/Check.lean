import CrossEntropy.Proofs.Check.Passes
import CrossEntropy.Proofs.Indexed.Gradients
import CrossEntropy.Proofs.Indexed.Loss
import CrossEntropy.Proofs.Indexed.Reference

/-!
# Checks by index

The checks of an example as a program that takes the outputs that it wants by their number, and
walks over the lanes of an axis that must exist. Built on the operations, references and gradient
checks by index, it never stops.

* `subject`, `distributions`, `checkReference`: the parts of a check;
* `checkCase`: the whole;
* **`inBounds`**: nothing is ever accessed out of bounds.
-/

namespace CrossEntropy.Indexed

open Scalar Precision

variable {S D : Type} [Scalar S] [Scalar D] [Precision S D]

/-! ## Subjects -/

/-- An operation and the reference for each of its outputs. -/
structure Subject (S D : Type) where
  operation : Operation S
  references : List (Tensor D)

/-- The operation and references of a case's inputs. -/
def subject (case : Case) (inputs : CaseInputs S) : Run ShapeError (Subject S D) :=
  let scores : Tensor D := inputs.scores.map widen
  match case with
  | .softmax => do return ⟨softmax defaultAxis, [← softmaxAxis defaultAxis scores]⟩
  | .softmaxAxis axis => do return ⟨softmax axis.toNat, [← softmaxAxis axis.toNat scores]⟩
  | .softmaxWithLoss => do
    let labels ← settled (required "labels" inputs.labels)
    settled (labels.expectRank 1)
    let (probabilities, loss) ← softmaxCrossEntropy scores labels
    return ⟨softmaxWithLoss (.labels labels), [probabilities, Tensor.scalar loss]⟩
  | .softLabelSoftmaxWithLoss => do
    let targets ← settled (required "targets" inputs.targets)
    settled (targets.expectRank 2)
    let (probabilities, loss) ← softLabelCrossEntropy scores (targets.map widen)
    return ⟨softmaxWithLoss (.distributions targets), [probabilities, Tensor.scalar loss]⟩
  | .spatialSoftmaxWithLoss | .largeSpatialSoftmaxWithLoss => do
    let labels ← settled (required "labels" inputs.labels)
    settled (labels.expectRank 3)
    settled (inputs.weights.forM (Tensor.expectRank 3))
    let (probabilities, loss) ←
      spatialSoftmaxCrossEntropy scores labels (inputs.weights.map (·.map widen))
    return ⟨softmaxWithLoss (.pixels labels inputs.weights), [probabilities, Tensor.scalar loss]⟩

/-- A subject with an operation by index, for a subject with the operation that it renders. -/
structure Subject.Renders (indexed : Subject S D) (subject : CrossEntropy.Subject S D) : Prop where
  operation : indexed.operation.Renders subject.operation
  references : indexed.references = subject.references

/-- A computation that does not stop, with the error of another one or a related result. -/
inductive Agree {ε α β : Type} (r : α → β → Prop) : Run ε α → Except ε β → Prop
  | ok {a : α} {b : β} (h : r a b) : Agree r (settled (.ok a)) (.ok b)
  | error (e : ε) : Agree r (settled (.error e)) (.error e)

theorem Agree.eq_error {ε α β : Type} {r : α → β → Prop} {x : Run ε α} {e : ε}
    (h : Agree r x (.error e)) : x = settled (.error e) := by
  cases h
  rfl

theorem Agree.eq_ok {ε α β : Type} {r : α → β → Prop} {x : Run ε α} {b : β}
    (h : Agree r x (.ok b)) : ∃ a, x = settled (.ok a) ∧ r a b := by
  cases h with
  | ok h => exact ⟨_, rfl, h⟩

theorem Agree.bind {ε α β γ : Type} {r : α → β → Prop} {x : Except ε γ} {f : γ → Run ε α}
    {g : γ → Except ε β} (h : ∀ c, Agree r (f c) (g c)) : Agree r (settled x >>= f) (x >>= g) := by
  cases x with
  | error e => exact .error e
  | ok c => exact h c

theorem subject_agree (case : Case) (inputs : CaseInputs S) :
    Agree Subject.Renders (subject case inputs : Run ShapeError (Subject S D))
      (case.subject inputs) := by
  cases case with
  | softmax | softmaxAxis axis =>
    unfold subject Case.subject
    simp only [softmaxAxis_eq]
    apply Agree.bind
    intro p
    exact .ok ⟨softmax_renders _, rfl⟩
  | softmaxWithLoss =>
    unfold subject Case.subject
    simp only [softmaxCrossEntropy_eq]
    apply Agree.bind
    intro labels
    apply Agree.bind
    intro _
    apply Agree.bind
    rintro ⟨p, loss⟩
    exact .ok ⟨softmaxWithLoss_renders _, rfl⟩
  | softLabelSoftmaxWithLoss =>
    unfold subject Case.subject
    simp only [softLabelCrossEntropy_eq]
    apply Agree.bind
    intro targets
    apply Agree.bind
    intro _
    apply Agree.bind
    rintro ⟨p, loss⟩
    exact .ok ⟨softmaxWithLoss_renders _, rfl⟩
  | spatialSoftmaxWithLoss | largeSpatialSoftmaxWithLoss =>
    unfold subject Case.subject
    simp only [spatialSoftmaxCrossEntropy_eq]
    apply Agree.bind
    intro labels
    apply Agree.bind
    intro _
    apply Agree.bind
    intro _
    apply Agree.bind
    rintro ⟨p, loss⟩
    exact .ok ⟨softmaxWithLoss_renders _, rfl⟩

/-! ## Examples -/

/-- The lanes of a matrix or of a tensor with classes, as distributions. -/
def distributions (case : Case) (probabilities : Tensor S) : Run ShapeError (List (List S)) :=
  match case.softmaxAxis? with
  | some axis => do
    let rows ← asRows axis probabilities
    let s ← access (Split.along rows.shape defaultAxis)
    return laneLists rows s
  | none => do
    let s ← access (Split.along probabilities.shape defaultAxis)
    return laneLists probabilities s

/-- Compares each output with the reference of its number. -/
def checkReference (indexed : Operation S) (scores : Tensor S) (references : List (Tensor D))
    (thresholds : List D) : Run (CheckFailure S D) Unit := do
  let outputs ← refuse (indexed.forward scores)
  if outputs.length ≠ references.length then
    settled (.error (.outputCount references.length outputs.length))
  else settled (((outputs.zip references).zip thresholds).zipIdx.forM
    fun (((output, reference), threshold), k) => checkOutput k output reference threshold)

/-- Runs every check that a case calls for. -/
def checkCase (case : Case) (inputs : CaseInputs S) (tolerances : Tolerances S D) :
    Run (CheckFailure S D) Unit := do
  let subject ← refuse (subject case inputs)
  checkReference subject.operation inputs.scores subject.references
    [tolerances.reference, tolerances.loss]
  let outputs ← refuse (subject.operation.forward inputs.scores)
  let probabilities ← access outputs[0]?
  let distributions ← refuse (distributions case probabilities)
  settled (checkSimplexes distributions tolerances.simplex)
  if case.isGradientChecked then
    checkGradients subject.operation inputs.scores (subject.operation.outputCount - 1) tolerances
  else return ()

omit [Scalar S] in
theorem checkReference_eq {indexed : Operation S} {operation : CrossEntropy.Operation S}
    (hrenders : indexed.Renders operation) (scores : Tensor S) (references : List (Tensor D))
    (thresholds : List D) :
    checkReference indexed scores references thresholds =
      settled (CrossEntropy.checkReference operation scores references thresholds) := by
  unfold checkReference CrossEntropy.checkReference
  rw [hrenders.forward]
  apply settled_bind
  intro outputs _
  by_cases hcount : outputs.length ≠ references.length
  · rw [if_pos hcount, if_pos hcount]
    rfl
  · rw [if_neg hcount, if_neg hcount]

omit [Scalar S] in
theorem distributions_eq {case : Case} {p : Tensor S} {lists : List (List S)}
    (h : case.distributions p = .ok lists) : distributions case p = settled (.ok lists) := by
  obtain ⟨shape, x⟩ := p
  unfold Case.distributions at h
  unfold distributions
  cases haxis : case.softmaxAxis? with
  | some axis =>
    simp only [haxis, rows_eq_map] at h ⊢
    cases hdimensions : CrossEntropy.flattenedDimensions shape axis with
    | error e =>
      rw [hdimensions] at h
      cases h
    | ok dimensions =>
      obtain ⟨n, d⟩ := dimensions
      rw [hdimensions] at h
      cases h
      have hsize := size_eq_of_flattenedDimensions hdimensions
      rw [asRows_eq hdimensions, settled_ok_bind, along_classAxis, access_some, settled_ok_bind]
      obtain ⟨rfl, rfl⟩ := flattenedDimensions_eq_ok hdimensions
      have hcast := (Split.flattened shape axis).cast_lanes hsize x
      exact congrArg (fun lanes => settled (.ok (lanes.toList.map Vector.toList))) hcast
  | none =>
    simp only [haxis] at h ⊢
    cases halong : Split.along shape defaultAxis with
    | none =>
      rw [halong] at h
      cases h
    | some s =>
      rw [halong] at h
      cases h
      rfl

/-- The last output, by which gradients are checked, is always there. -/
theorem lastOutput_lt {case : Case} {inputs : CaseInputs S} {subject : CrossEntropy.Subject S D}
    (hsubject : case.subject inputs = .ok subject) (scores : Tensor S) (outputs : List (Tensor S))
    (hforward : subject.operation.forward scores = .ok outputs) :
    subject.operation.outputCount - 1 < outputs.length := by
  obtain ⟨hcount, p, s, hp, -⟩ := splits_of_forward hsubject hforward
  have hpos : 0 < outputs.length := (List.getElem?_eq_some_iff.mp hp).1
  omega

theorem checkCase_eq (case : Case) (inputs : CaseInputs S) (tolerances : Tolerances S D) :
    checkCase case inputs tolerances = settled (CrossEntropy.checkCase case inputs tolerances) := by
  unfold checkCase CrossEntropy.checkCase
  have hagree := subject_agree (D := D) case inputs
  cases hsubject : case.subject inputs with
  | error e =>
    rw [hsubject] at hagree
    rw [hagree.eq_error]
    rfl
  | ok subject =>
    rw [hsubject] at hagree
    obtain ⟨indexed, hindexed, hrenders⟩ := hagree.eq_ok
    have hoperation := hrenders.operation
    rw [hindexed]
    show (checkReference indexed.operation inputs.scores indexed.references _ >>= fun _ => _) = _
    rw [checkReference_eq hoperation, hrenders.references, hoperation.forward,
      hoperation.outputCount]
    apply settled_bind
    intro _ _
    cases hforward : subject.operation.forward inputs.scores with
    | error e => rfl
    | ok outputs =>
      obtain ⟨-, p, s, hp, hsplits⟩ := splits_of_forward hsubject hforward
      have hfirst : outputOf 0 outputs = .ok p := outputOf_eq_ok_iff.mpr hp
      show (access outputs[0]? >>= fun p => refuse (distributions case p) >>= fun _ => _) =
        settled (CrossEntropy.refuse (outputOf 0 outputs) >>= fun p =>
          CrossEntropy.refuse (case.distributions p) >>= fun _ => _)
      rw [hp, hfirst, access_some, settled_ok_bind, distributions_eq hsplits.distributions]
      show _ = settled (CrossEntropy.refuse (case.distributions p) >>= fun _ => _)
      rw [hsplits.distributions]
      show settled (checkSimplexes (laneLists p s) tolerances.simplex) >>= _ = _
      apply settled_bind
      intro _ _
      by_cases hchecked : case.isGradientChecked = true
      · rw [if_pos hchecked, if_pos hchecked]
        exact checkGradients_eq (hoperation.near _ _) fun _ _ _ x outputs' _ =>
          lastOutput_lt hsubject x outputs'
      · rw [if_neg hchecked, if_neg hchecked]
        rfl

/-- **Nothing is ever accessed out of bounds**: the operations on any scores and gradients for any
output, and all checks of any case on any inputs, come to the result or the error that is theirs. -/
theorem inBounds :
    (∀ (axis : Nat) (scores : Tensor S),
      ((softmax axis).forward scores).run = some ((CrossEntropy.softmax axis).forward scores)) ∧
    (∀ (axis : Nat) (outGradient scores : Tensor S) (output : Nat),
      ((softmax axis).backward outGradient scores output).run =
        some ((CrossEntropy.softmax axis).backward outGradient scores output)) ∧
    (∀ (targets : Targets S) (scores : Tensor S),
      ((softmaxWithLoss targets).forward scores).run =
        some ((CrossEntropy.softmaxWithLoss targets).forward scores)) ∧
    (∀ (targets : Targets S) (outGradient scores : Tensor S) (output : Nat),
      ((softmaxWithLoss targets).backward outGradient scores output).run =
        some ((CrossEntropy.softmaxWithLoss targets).backward outGradient scores output)) ∧
    ∀ (case : Case) (inputs : CaseInputs S) (tolerances : Tolerances S D),
      (checkCase case inputs tolerances).run =
        some (CrossEntropy.checkCase case inputs tolerances) := by
  refine ⟨?_, ?_, ?_, ?_, ?_⟩
  · intro axis scores
    exact (softmax_renders axis).forward scores
  · intro axis outGradient scores output
    exact (softmax_renders axis).backward outGradient scores output
  · intro targets scores
    exact (softmaxWithLoss_renders targets).forward scores
  · intro targets outGradient scores output
    exact (softmaxWithLoss_renders targets).backward outGradient scores output
  · intro case inputs tolerances
    exact checkCase_eq case inputs tolerances

end CrossEntropy.Indexed
