import CrossEntropy.Proofs.Fits
import CrossEntropy.Proofs.Location

/-!
# Probabilities

What softmax alone and softmax with loss have in common: on accepted scores the first output is the
softmax of every lane of a split, its backward pass is that of softmax on every lane, and the lanes
are the distributions by location.

* `rows_eq_ok_iff`, `softmax_forward_eq_ok_iff`: when softmax accepts scores;
* `softmax_backward_eq_ok_iff`, `softmaxWithLoss_backward_eq_ok_iff`: the gradients there are;
* `Operation.SoftmaxOf`, `Operation.Normalizes`: the first output by lanes, and by locations;
* **`softmax_normalizes`, `softmaxWithLoss_normalizes`**: this is so for both operations;
* `softmax_alike`, `softmaxWithLoss_alike`: nothing but these probabilities counts of the scores.
-/

namespace CrossEntropy

open Precision

theorem rows_eq_ok_iff {shape : Shape} {axis : Nat} {s : Split (Shape.size shape)} :
    Split.rows shape axis = .ok s ↔ axis ≤ shape.length ∧ Shape.size (shape.drop axis) ≠ 0 ∧
      Split.flattened shape axis = s := by
  unfold Split.rows flattenedDimensions
  rw [bind_eq_ok_iff]
  split
  next h => exact iff_of_false (by simp) fun hle => absurd hle.1 (Nat.not_le.mpr h)
  next h =>
    rw [Nat.not_lt] at h
    simp [h, ite_error_eq_ok_iff, pure, Except.pure]

variable {S : Type} [Scalar S]

/-- The probabilities of every lane of some entries. -/
def Split.softmax {size : Nat} (s : Split size) (x : Vector S size) : Vector S size :=
  s.join (softmaxLanes (s.lanes x))

/-- The gradient by the scores, from the one by the probabilities of every lane. -/
def Split.softmaxBackward {size : Nat} (s : Split size) (x g : Vector S size) : Vector S size :=
  s.join (softmaxBackwardLanes (softmaxLanes (s.lanes x)) (s.lanes g))

/-- The first output of an operation is the softmax of the lanes of a split, whatever the scores,
and so is its backward pass. -/
structure Operation.SoftmaxOf (operation : Operation S) {shape : Shape}
    (s : Split (Shape.size shape)) : Prop where
  forward (x : Vector S (Shape.size shape)) :
    ∃ rest, operation.forward ⟨shape, x⟩ = .ok (⟨shape, s.softmax x⟩ :: rest)
  backward (x g : Vector S (Shape.size shape)) :
    operation.backward ⟨shape, g⟩ ⟨shape, x⟩ 0 = .ok ⟨shape, s.softmaxBackward x g⟩

/-- The first output of an operation on scores of a shape is the softmax of the entries at each
location, of which there are some. -/
def Operation.Normalizes (operation : Operation S) (shape : Shape)
    (location : List Nat → List Nat) : Prop :=
  ∃ s : Split (Shape.size shape), s.classes ≠ 0 ∧ s.LocatedBy location ∧ operation.SoftmaxOf s

/-- Two inputs make no difference to an operation: it gives the same outputs and gradients for both,
or refuses them for the same reason. -/
structure Operation.Alike (operation : Operation S) (x y : Tensor S) : Prop where
  forward : operation.forward x = operation.forward y
  backward (outGradient : Tensor S) (output : Nat) :
    operation.backward outGradient x output = operation.backward outGradient y output

/-! ## Softmax alone -/

variable {axis : Nat} {scores : Tensor S} {outputs : List (Tensor S)}

theorem softmaxForward_eq (h : axis ≤ scores.shape.length)
    (hclasses : Shape.size (scores.shape.drop axis) ≠ 0) :
    softmaxForward axis scores =
      .ok ⟨scores.shape, (Split.flattened scores.shape axis).softmax scores.entries⟩ := by
  apply bind_eq_ok_iff.mpr
  exact ⟨_, rows_eq_ok_iff.mpr ⟨h, hclasses, rfl⟩, rfl⟩

theorem softmaxBackward_eq (scores : Tensor S) (h : axis ≤ scores.shape.length)
    (hclasses : Shape.size (scores.shape.drop axis) ≠ 0)
    (g : Vector S (Shape.size scores.shape)) :
    softmaxBackward axis ⟨scores.shape, g⟩ scores =
      .ok ⟨scores.shape, (Split.flattened scores.shape axis).softmaxBackward scores.entries g⟩ := by
  apply bind_eq_ok_iff.mpr
  refine ⟨g, expectShape_eq_ok_iff.mpr rfl, ?_⟩
  apply bind_eq_ok_iff.mpr
  exact ⟨_, rows_eq_ok_iff.mpr ⟨h, hclasses, rfl⟩, rfl⟩

theorem softmax_forward_eq_ok_iff :
    (softmax axis).forward scores = .ok outputs ↔
      axis ≤ scores.shape.length ∧ Shape.size (scores.shape.drop axis) ≠ 0 ∧
        outputs = [⟨scores.shape, (Split.flattened scores.shape axis).softmax scores.entries⟩] := by
  constructor
  · intro h
    obtain ⟨p, hp, h⟩ := bind_eq_ok_iff.mp h
    obtain ⟨s, hs, hjoin⟩ := bind_eq_ok_iff.mp hp
    obtain ⟨haxis, hclasses, rfl⟩ := rows_eq_ok_iff.mp hs
    cases hjoin
    cases h
    exact ⟨haxis, hclasses, rfl⟩
  · rintro ⟨haxis, hclasses, rfl⟩
    apply bind_eq_ok_iff.mpr
    exact ⟨_, softmaxForward_eq haxis hclasses, rfl⟩

theorem softmax_backward_eq_ok_iff {output : Nat} {outGradient gradient : Tensor S}
    (h : axis ≤ scores.shape.length)
    (hclasses : Shape.size (scores.shape.drop axis) ≠ 0) :
    (softmax axis).backward outGradient scores output = .ok gradient ↔
      output = 0 ∧ ∃ g, outGradient = ⟨scores.shape, g⟩ ∧
        ⟨scores.shape, (Split.flattened scores.shape axis).softmaxBackward scores.entries g⟩ =
          gradient := by
  show (if output = 0 then softmaxBackward axis outGradient scores else _) = _ ↔ _
  split_ifs with houtput
  · rw [softmaxBackward, bind_eq_ok_iff]
    simp only [expectShape_eq_ok_iff, bind_eq_ok_iff, rows_eq_ok_iff, houtput, h, hclasses, ne_eq,
      not_false_eq_true, true_and, exists_eq_left', pure, Except.pure, Except.ok.injEq]
    rfl
  · exact iff_of_false (fun h => nomatch h) fun h => houtput h.1

theorem softmax_softmaxOf {shape : Shape} (h : axis ≤ shape.length)
    (hclasses : Shape.size (shape.drop axis) ≠ 0) :
    (softmax axis : Operation S).SoftmaxOf (Split.flattened shape axis) := by
  constructor
  · intro x
    have hforward : (softmax axis).forward ⟨shape, x⟩ = .ok _ :=
      softmax_forward_eq_ok_iff.mpr ⟨h, hclasses, rfl⟩
    exact ⟨[], hforward⟩
  · intro x g
    exact softmaxBackward_eq ⟨shape, x⟩ h hclasses g

/-- **Softmax from an axis on normalizes what has the same index before the axis.** -/
theorem softmax_normalizes (h : (softmax axis).forward scores = .ok outputs) :
    (softmax axis : Operation S).Normalizes scores.shape (List.take axis) := by
  obtain ⟨haxis, hclasses, -⟩ := softmax_forward_eq_ok_iff.mp h
  exact ⟨_, hclasses, Split.flattened_locatedBy scores.shape axis,
    softmax_softmaxOf haxis hclasses⟩

/-- To softmax, scores are no more than the probabilities of their rows. -/
theorem softmax_alike {shape : Shape} {x y : Vector S (Shape.size shape)}
    (h : softmaxLanes ((Split.flattened shape axis).lanes x) =
      softmaxLanes ((Split.flattened shape axis).lanes y)) :
    (softmax axis).Alike ⟨shape, x⟩ ⟨shape, y⟩ := by
  have hforward : softmaxForward axis ⟨shape, x⟩ = softmaxForward axis ⟨shape, y⟩ := by
    apply bind_congr_ok
    intro s hs
    obtain ⟨-, -, rfl⟩ := rows_eq_ok_iff.mp hs
    simp only [h]
  have hbackward (outGradient : Tensor S) :
      softmaxBackward axis outGradient ⟨shape, x⟩ = softmaxBackward axis outGradient ⟨shape, y⟩ := by
    apply bind_congr_ok
    intro g _
    apply bind_congr_ok
    intro s hs
    obtain ⟨-, -, rfl⟩ := rows_eq_ok_iff.mp hs
    simp only [h]
  constructor
  · exact congrArg (· >>= fun p => .ok [p]) hforward
  · intro outGradient output
    show (if output = 0 then softmaxBackward axis outGradient ⟨shape, x⟩ else _) =
      if output = 0 then softmaxBackward axis outGradient ⟨shape, y⟩ else _
    rw [hbackward]

/-! ## Softmax with loss -/

variable {D : Type} [Scalar D] [Precision S D] {targets : Targets S} {shape : Shape}

theorem Fits.locatedBy {f : Fitted S shape} (h : Fits targets shape f) :
    f.split.classes ≠ 0 ∧ f.split.LocatedBy (List.eraseIdx · 1) := by
  cases h with
  | labels hd => exact ⟨hd, Split.classAxis_locatedBy _ _ _⟩
  | distributions hd => exact ⟨hd, Split.classAxis_locatedBy _ _ _⟩
  | pixels hd => exact ⟨hd, Split.classAxis_locatedBy _ _ _⟩

theorem Fits.softmaxOf {f : Fitted S shape} (h : Fits targets shape f) :
    (softmaxWithLoss targets).SoftmaxOf f.split := by
  constructor
  · intro x
    have hforward : (softmaxWithLoss targets).forward ⟨shape, x⟩ = .ok _ :=
      forward_eq_ok_iff.mpr ⟨f, h, rfl⟩
    exact ⟨_, hforward⟩
  · intro x g
    exact @probabilitiesBackward_eq S _ D _ _ targets ⟨shape, x⟩ f h g

/-- **Softmax with loss normalizes what has the same index apart from the class.** -/
theorem softmaxWithLoss_normalizes (h : (softmaxWithLoss targets).forward scores = .ok outputs) :
    (softmaxWithLoss targets).Normalizes scores.shape (List.eraseIdx · 1) := by
  obtain ⟨f, hf, -⟩ := forward_eq_ok_iff.mp h
  obtain ⟨hclasses, hlocated⟩ := hf.locatedBy
  exact ⟨f.split, hclasses, hlocated, hf.softmaxOf⟩

theorem softmaxWithLoss_backward (targets : Targets S) (outGradient scores : Tensor S)
    (output : Nat) :
    (softmaxWithLoss targets).backward outGradient scores output =
      match output with
      | 0 => probabilitiesBackward targets outGradient scores
      | 1 => lossBackward targets outGradient scores
      | _ => .error (.noSuchOutput output) :=
  rfl

theorem softmaxWithLoss_backward_eq_ok_iff {output : Nat} {outGradient gradient : Tensor S}
    {f : Fitted S scores.shape} (hf : Fits targets scores.shape f) :
    (softmaxWithLoss targets).backward outGradient scores output = .ok gradient ↔
      (output = 0 ∧ ∃ g, outGradient = ⟨scores.shape, g⟩ ∧
        ⟨scores.shape, f.split.softmaxBackward scores.entries g⟩ = gradient) ∨
      (output = 1 ∧ ∃ g, onlyEntry outGradient = .ok g ∧
        f.tensor (f.supervision.gradient (g / narrow (f.totals : Totals D).weight)
          f.probabilities) = gradient) := by
  rw [softmaxWithLoss_backward]
  match output with
  | 0 =>
    simp only [true_and, Nat.zero_ne_one, false_and, or_false]
    constructor
    · intro h
      obtain ⟨g, hg, -⟩ := bind_eq_ok_iff.mp h
      obtain rfl := expectShape_eq_ok_iff.mp hg
      exact ⟨g, rfl, Except.ok.inj ((probabilitiesBackward_eq (D := D) hf g).symm.trans h)⟩
    · rintro ⟨g, rfl, rfl⟩
      exact probabilitiesBackward_eq hf g
  | 1 =>
    simp only [Nat.one_ne_zero, false_and, true_and, false_or]
    constructor
    · intro h
      obtain ⟨g, hg, -⟩ := bind_eq_ok_iff.mp h
      exact ⟨g, hg, Except.ok.inj ((lossBackward_eq (D := D) hf hg).symm.trans h)⟩
    · rintro ⟨g, hg, rfl⟩
      exact lossBackward_eq hf hg
  | output + 2 => simp

/-- To softmax with loss, scores are no more than the probabilities of their lanes. -/
theorem softmaxWithLoss_alike {x y : Vector S (Shape.size shape)}
    (h : ∀ f, Fits targets shape f →
      softmaxLanes (f.split.lanes x) = softmaxLanes (f.split.lanes y)) :
    (softmaxWithLoss targets).Alike ⟨shape, x⟩ ⟨shape, y⟩ := by
  have hevaluate : targets.evaluate ⟨shape, x⟩ = targets.evaluate ⟨shape, y⟩ := by
    apply bind_congr_ok
    intro f hf
    simp only [h f (resolve_eq_ok_iff.mp hf)]
  constructor
  · show lossForward targets ⟨shape, x⟩ = lossForward targets ⟨shape, y⟩
    simp only [lossForward, hevaluate]
  · intro outGradient output
    have hprobabilities : probabilitiesBackward targets outGradient ⟨shape, x⟩ =
        probabilitiesBackward targets outGradient ⟨shape, y⟩ := by
      simp only [probabilitiesBackward, hevaluate]
    have hloss : lossBackward targets outGradient ⟨shape, x⟩ =
        lossBackward targets outGradient ⟨shape, y⟩ := by
      simp only [lossBackward, hevaluate]
    rw [softmaxWithLoss_backward, softmaxWithLoss_backward, hprobabilities, hloss]

end CrossEntropy
