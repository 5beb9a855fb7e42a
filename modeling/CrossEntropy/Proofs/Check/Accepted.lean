import CrossEntropy.Proofs.Check.Passes
import CrossEntropy.Proofs.SoftmaxReference

/-!
# Checks of accepted inputs

An operation that accepts some scores accepts all scores of their shape: nothing is ever refused on
account of a score. Once the inputs of an example are accepted, its checks run to the end, and what
they report is a number that is not close enough to another one.

* `CheckFailure.IsNumeric`, `OnlyNumeric`: failures that are about numbers;
* `Operation.Accepts`: scores of a shape are accepted, forward and backward;
* `softmax_accepts`, `softmaxWithLoss_accepts`: this is so for both operations;
* **`checkCase_onlyNumeric`**: the checks of an example whose inputs are accepted.
-/

namespace CrossEntropy

variable {S D : Type}

/-! ## Numeric failures -/

/-- A failure is about a number, not about shapes or the number of outputs. -/
def CheckFailure.IsNumeric : CheckFailure S D → Prop
  | referenceMismatch .. | simplexSum .. | simplexNegative .. | gradientMismatch .. => True
  | outputShape .. | outputCount .. | shape _ => False

/-- A check fails in numeric ways only. -/
def OnlyNumeric {α : Type} (x : Checked S D α) : Prop :=
  ∀ failure, x = .error failure → failure.IsNumeric

namespace OnlyNumeric

variable {α β : Type} {x : Checked S D α} {f : α → Checked S D β}

theorem of_ok {a : α} (h : x = .ok a) : OnlyNumeric x := by
  rintro failure hfailure
  cases h.symm.trans hfailure

theorem error {failure : CheckFailure S D} (h : failure.IsNumeric) :
    OnlyNumeric (.error failure : Checked S D α) := by
  rintro _ ⟨⟩
  exact h

theorem bind (hx : OnlyNumeric x) (hf : ∀ a, x = .ok a → OnlyNumeric (f a)) :
    OnlyNumeric (x >>= f) := by
  cases x with
  | error failure =>
    intro failure' h
    exact hx failure' (congrArg Except.error (Except.error.inj h))
  | ok a => exact hf a rfl

theorem bind_ok {a : α} (hx : x = .ok a) (hf : OnlyNumeric (f a)) : OnlyNumeric (x >>= f) := by
  rw [hx]
  exact hf

theorem forM {xs : List α} {g : α → Checked S D Unit} (h : ∀ x ∈ xs, OnlyNumeric (g x)) :
    OnlyNumeric (xs.forM g) := by
  induction xs with
  | nil => exact of_ok rfl
  | cons x xs ih =>
    have hxs : ∀ x ∈ xs, OnlyNumeric (g x) := fun y hy => h y (List.mem_cons_of_mem x hy)
    exact (h x List.mem_cons_self).bind fun _ _ => ih hxs

end OnlyNumeric

/-! ## Operations that accept a shape -/

/-- An operation accepts all scores of a shape, with outputs of the given shapes, and gives
gradients for each of them. -/
structure Operation.Accepts (operation : Operation S) (shape : Shape) (shapes : List Shape) :
    Prop where
  outputCount : operation.outputCount = shapes.length
  forward : ∀ scores : Tensor S, scores.shape = shape → ∃ outputs,
    operation.forward scores = .ok outputs ∧ outputs.map Tensor.shape = shapes
  backward : ∀ (scores y : Tensor S) (number : Nat), scores.shape = shape →
    shapes[number]? = some y.shape → ∃ gradient,
      operation.backward y scores number = .ok gradient ∧ gradient.shape = shape

theorem Operation.Accepts.output {operation : Operation S} {shape : Shape} {shapes : List Shape}
    (h : operation.Accepts shape shapes) {scores : Tensor S} (hscores : scores.shape = shape)
    {number : Nat} (hnumber : number < shapes.length) :
    ∃ y, operation.forward scores >>= outputOf number = .ok y ∧
      shapes[number]? = some y.shape := by
  obtain ⟨outputs, hforward, rfl⟩ := h.forward scores hscores
  rw [List.length_map] at hnumber
  have hy : outputs[number]? = some outputs[number] := List.getElem?_eq_getElem hnumber
  refine ⟨_, bind_eq_ok_iff.mpr ⟨outputs, hforward, outputOf_eq_ok_iff.mpr hy⟩, ?_⟩
  rw [List.getElem?_map, hy]
  rfl

section Operations

variable [Scalar S]

theorem softmax_accepts {shape : Shape} {axis : Nat} {s : Split (Shape.size shape)}
    (hs : Split.rows shape axis = .ok s) : (softmax axis : Operation S).Accepts shape [shape] where
  outputCount := rfl
  forward := by
    rintro ⟨_, x⟩ rfl
    exact ⟨_, bind_eq_ok_iff.mpr ⟨_, bind_eq_ok_iff.mpr ⟨s, hs, rfl⟩, rfl⟩, rfl⟩
  backward := by
    rintro ⟨shape, x⟩ ⟨shape', g⟩ (_ | number) rfl hy
    · obtain rfl : shape = shape' := Option.some.inj hy
      have hentries : (⟨shape, g⟩ : Tensor S).expectShape "out_gradient" shape = .ok g :=
        expectShape_eq_ok_iff.mpr rfl
      exact ⟨_, bind_eq_ok_iff.mpr ⟨g, hentries, bind_eq_ok_iff.mpr ⟨s, hs, rfl⟩⟩, rfl⟩
    · cases hy

variable [Scalar D] [Precision S D]

theorem softmaxWithLoss_accepts {targets : Targets S} {shape : Shape} {f : Fitted S shape}
    (hf : Fits targets shape f) : (softmaxWithLoss targets).Accepts shape [shape, []] where
  outputCount := rfl
  forward := by
    rintro ⟨_, x⟩ rfl
    exact ⟨_, forward_eq_ok_iff.mpr ⟨f, hf, rfl⟩, rfl⟩
  backward := by
    rintro ⟨shape, x⟩ ⟨shape', g⟩ (_ | _ | number) rfl hy
    · obtain rfl : shape = shape' := Option.some.inj hy
      have hbackward : probabilitiesBackward targets ⟨shape, g⟩ ⟨shape, x⟩ = .ok _ :=
        probabilitiesBackward_eq hf g
      exact ⟨_, hbackward, rfl⟩
    · obtain rfl : [] = shape' := Option.some.inj hy
      have hbackward : lossBackward targets ⟨[], g⟩ ⟨shape, x⟩ = .ok _ :=
        lossBackward_eq hf (dif_pos rfl)
      exact ⟨_, hbackward, rfl⟩
    · cases hy

end Operations

/-! ## Checks -/

section Checks

open Precision

variable [Scalar D] [Precision S D]

theorem checkOutput_onlyNumeric {number : Nat} {output : Tensor S} {reference : Tensor D}
    {threshold : D} (h : reference.shape = output.shape) :
    OnlyNumeric (checkOutput number output reference threshold) := by
  rw [checkOutput, dif_pos h]
  dsimp only
  split
  next => exact .of_ok rfl
  next => exact .error trivial

theorem checkReference_onlyNumeric {operation : Operation S} {scores : Tensor S}
    {references : List (Tensor D)} {thresholds : List D}
    (h : operation.Accepts scores.shape (references.map Tensor.shape)) :
    OnlyNumeric (checkReference operation scores references thresholds) := by
  obtain ⟨outputs, hforward, hshapes⟩ := h.forward scores rfl
  have hlength : outputs.length = references.length := by
    simpa using congrArg List.length hshapes
  refine .bind_ok (refuse_eq_ok_iff.mpr hforward) ?_
  rw [if_neg (not_not_intro hlength)]
  refine .forM ?_
  rintro ⟨⟨⟨output, reference⟩, threshold⟩, k⟩ hk
  rw [List.mem_zipIdx_iff_getElem?, List.getElem?_zip_eq_some, List.getElem?_zip_eq_some] at hk
  have hshape := congrArg (·[k]?) hshapes
  simp only [List.getElem?_map, hk.1.1, hk.1.2, Option.map_some, Option.some.injEq] at hshape
  exact checkOutput_onlyNumeric hshape.symm

variable [Scalar S]

omit [Scalar D] [Precision S D] in
theorem checkDistribution_onlyNumeric (number : Nat) (probabilities : List S) (tolerance : S) :
    OnlyNumeric (checkDistribution number probabilities tolerance : Checked S D Unit) := by
  unfold checkDistribution
  split
  next => exact .error trivial
  next =>
    dsimp only
    split
    next => exact .of_ok rfl
    next => exact .error trivial

omit [Scalar D] [Precision S D] in
theorem checkSimplexes_onlyNumeric (distributions : List (List S)) (tolerance : S) :
    OnlyNumeric (checkSimplexes distributions tolerance : Checked S D Unit) :=
  .forM fun (probabilities, number) _ =>
    checkDistribution_onlyNumeric number probabilities tolerance

variable {operation : Operation S} {scores : Tensor S} {shapes : List Shape} {number : Nat}
  {tolerances : Tolerances S D}

omit [Scalar S] in
theorem objective_eq_ok (h : operation.Accepts scores.shape shapes)
    (hnumber : number < shapes.length) {scores' : Tensor S}
    (hshape : scores'.shape = scores.shape) :
    ∃ value, objective operation number scores' = .ok value := by
  obtain ⟨y, hy, -⟩ := h.output hshape hnumber
  exact ⟨halfSquaredNorm y, by simpa [objective] using congrArg (halfSquaredNorm <$> ·) hy⟩

theorem centredDifference_eq_ok (h : operation.Accepts scores.shape shapes)
    (hnumber : number < shapes.length) (step : S) (k : Fin scores.size) :
    ∃ numeric, centredDifference operation scores number step k = .ok numeric := by
  have hreplaced (a : S) : (scores.replace k a).shape = scores.shape := rfl
  obtain ⟨above, habove⟩ := objective_eq_ok h hnumber (hreplaced (scores.entries.get k + step))
  obtain ⟨below, hbelow⟩ := objective_eq_ok h hnumber (hreplaced (scores.entries.get k - step))
  exact ⟨_, bind_eq_ok_iff.mpr ⟨above, habove, bind_eq_ok_iff.mpr ⟨below, hbelow, rfl⟩⟩⟩

theorem checkGradients_onlyNumeric (h : operation.Accepts scores.shape shapes)
    (hnumber : number < shapes.length) :
    OnlyNumeric (checkGradients operation scores number tolerances) := by
  have hscores : scores.shape = scores.shape := rfl
  obtain ⟨y, hy, hshape⟩ := h.output hscores hnumber
  obtain ⟨⟨_, entries⟩, hgradient, rfl⟩ := h.backward scores y number rfl hshape
  refine .bind_ok (refuse_eq_ok_iff.mpr hy) (.bind_ok (refuse_eq_ok_iff.mpr hgradient) ?_)
  refine .bind_ok (refuse_eq_ok_iff.mpr (expectShape_eq_ok_iff.mpr rfl)) (.forM fun k _ => ?_)
  obtain ⟨numeric, hnumeric⟩ := centredDifference_eq_ok h hnumber tolerances.stepsize k
  refine .bind_ok (refuse_eq_ok_iff.mpr hnumeric) ?_
  dsimp only
  split
  next => exact .of_ok rfl
  next => exact .error trivial

/-- The inputs of a case are accepted, and all outputs have the shapes of their references. -/
def Case.Accepts (case : Case) (inputs : CaseInputs S) : Prop :=
  ∃ subject : Subject S D, case.subject inputs = .ok subject ∧
    subject.operation.Accepts inputs.scores.shape (subject.references.map Tensor.shape)

/-- **The checks of an example whose inputs are accepted fail in numeric ways only.** -/
theorem checkCase_onlyNumeric {case : Case} {inputs : CaseInputs S} (h : case.Accepts inputs)
    (tolerances : Tolerances S D) : OnlyNumeric (checkCase case inputs tolerances) := by
  obtain ⟨subject, hsubject, haccepts⟩ := h
  obtain ⟨outputs, hforward, hshapes⟩ := haccepts.forward inputs.scores rfl
  obtain ⟨-, p, s, hp, hsplits⟩ := splits_of_forward hsubject hforward
  have hfirst : subject.operation.forward inputs.scores >>= outputOf 0 = .ok p :=
    bind_eq_ok_iff.mpr ⟨outputs, hforward, outputOf_eq_ok_iff.mpr hp⟩
  refine .bind_ok (refuse_eq_ok_iff.mpr hsubject) ?_
  refine (checkReference_onlyNumeric haccepts).bind fun _ _ => ?_
  refine .bind_ok (refuse_eq_ok_iff.mpr hfirst) ?_
  refine .bind_ok (refuse_eq_ok_iff.mpr hsplits.distributions) ?_
  refine (checkSimplexes_onlyNumeric _ _).bind fun _ _ => ?_
  split
  next =>
    have hlength : 0 < outputs.length := (List.getElem?_eq_some_iff.mp hp).1
    have hcount := haccepts.outputCount
    rw [← hshapes, List.length_map] at hcount
    rw [← hshapes] at haccepts
    exact checkGradients_onlyNumeric haccepts (by rw [List.length_map]; omega)
  next => exact .of_ok rfl

end Checks

end CrossEntropy
