import CrossEntropy.Proofs.Check.Outputs

/-!
# Gradient checks

What the check of gradients compares, and what it reports. Coordinates are taken in row-major order,
and each is compared with the objective on the scores as given, but for that coordinate.

* `HasObjective`, `HasSlope`: the objective of scores, and its numeric derivative by one coordinate;
* `GradientAgreesAt`, `CoordinateFault`: a coordinate that passes, and one that does not;
* `GradientPasses`, `GradientFault`: every coordinate agrees, or a first thing goes wrong;
* **`checkGradients_eq_ok_iff_passes`**: the check passes exactly if every coordinate does;
* **`checkGradients_eq_error_iff`**: it fails with the first thing that goes wrong.
-/

namespace CrossEntropy

open Scalar Precision

variable {S D : Type} [Scalar D] [Precision S D]

/-! ## Objectives -/

/-- The output of a number, for given scores. -/
def HasOutput (operation : Operation S) (number : Nat) (x y : Tensor S) : Prop :=
  ∃ outputs, operation.forward x = .ok outputs ∧ outputs[number]? = some y

/-- The objective of scores: half the squared norm of the output of a number. -/
def HasObjective (operation : Operation S) (number : Nat) (x : Tensor S) (value : D) : Prop :=
  ∃ y, HasOutput operation number x y ∧ halfSquaredNorm y = value

section Objective

variable {operation : Operation S} {number : Nat} {x : Tensor S}

omit [Scalar D] [Precision S D] in
theorem outputOf_forward_eq_ok_iff {y : Tensor S} :
    operation.forward x >>= outputOf number = .ok y ↔ HasOutput operation number x y := by
  rw [bind_eq_ok_iff]
  exact exists_congr fun _ => and_congr_right fun _ => outputOf_eq_ok_iff

theorem objective_eq_ok_iff {value : D} :
    objective operation number x = .ok value ↔ HasObjective operation number x value := by
  unfold objective HasObjective HasOutput
  simp only [bind_eq_ok_iff, outputOf_eq_ok_iff]
  constructor
  · rintro ⟨outputs, hforward, y, hy, hvalue⟩
    exact ⟨y, ⟨outputs, hforward, hy⟩, Except.ok.inj hvalue⟩
  · rintro ⟨y, ⟨outputs, hforward, hy⟩, rfl⟩
    exact ⟨outputs, hforward, y, hy, rfl⟩

/-- With the output at hand, only the operation can refuse. -/
theorem objective_eq_error_iff {e : ShapeError}
    (hnumber : ∀ outputs, operation.forward x = .ok outputs → number < outputs.length) :
    (objective operation number x : Except ShapeError D) = .error e ↔
      operation.forward x = .error e := by
  unfold objective
  rw [bind_eq_error_iff]
  constructor
  · rintro (h | ⟨outputs, hforward, h⟩)
    · exact h
    · have hlt := hnumber outputs hforward
      rw [outputOf_eq_ok_iff.mpr (List.getElem?_eq_getElem hlt)] at h
      cases h
  · exact .inl

end Objective

/-! ## Coordinates -/

variable [Scalar S] {operation : Operation S} {scores : Tensor S} {number : Nat}
  {tolerances : Tolerances S D}

/-- The numeric derivative by a coordinate: the objective with only this coordinate a step up, less
that with it a step down, over the step actually taken. -/
def HasSlope (operation : Operation S) (scores : Tensor S) (number : Nat) (h : S)
    (k : Fin scores.size) (numeric : D) : Prop :=
  ∃ above below,
    HasObjective operation number (scores.replace k (scores.entries.get k + h)) above ∧
    HasObjective operation number (scores.replace k (scores.entries.get k - h)) below ∧
    (above - below) /
      (widen (scores.entries.get k + h) - widen (scores.entries.get k - h)) = numeric

theorem centredDifference_eq_ok_iff {h : S} {k : Fin scores.size} {numeric : D} :
    centredDifference operation scores number h k = .ok numeric ↔
      HasSlope operation scores number h k numeric := by
  unfold centredDifference HasSlope
  simp only [bind_eq_ok_iff, objective_eq_ok_iff]
  constructor
  · rintro ⟨above, habove, below, hbelow, hnumeric⟩
    exact ⟨above, below, habove, hbelow, Except.ok.inj hnumeric⟩
  · rintro ⟨above, below, habove, hbelow, rfl⟩
    exact ⟨above, habove, below, hbelow, rfl⟩

theorem centredDifference_eq_error_iff {h : S} {k : Fin scores.size} {e : ShapeError}
    (hnumber : ∀ x outputs, operation.forward x = .ok outputs → number < outputs.length) :
    (centredDifference operation scores number h k : Except ShapeError D) = .error e ↔
      operation.forward (scores.replace k (scores.entries.get k + h)) = .error e ∨
      (∃ outputs, operation.forward (scores.replace k (scores.entries.get k + h)) = .ok outputs) ∧
        operation.forward (scores.replace k (scores.entries.get k - h)) = .error e := by
  unfold centredDifference
  rw [bind_eq_error_iff]
  refine or_congr (objective_eq_error_iff (hnumber _)) ?_
  constructor
  · rintro ⟨above, habove, h⟩
    obtain ⟨-, ⟨outputs, hforward, -⟩, -⟩ := objective_eq_ok_iff.mp habove
    obtain h | ⟨below, -, h⟩ := bind_eq_error_iff.mp h
    · exact ⟨⟨outputs, hforward⟩, (objective_eq_error_iff (hnumber _)).mp h⟩
    · cases h
  · rintro ⟨⟨outputs, hforward⟩, h⟩
    have hy := List.getElem?_eq_getElem (hnumber _ _ hforward)
    refine ⟨_, objective_eq_ok_iff.mpr ⟨_, ⟨outputs, hforward, hy⟩, rfl⟩, ?_⟩
    exact bind_eq_error_iff.mpr (.inl ((objective_eq_error_iff (hnumber _)).mpr h))

/-- The entry of a gradient at a coordinate is close to the numeric derivative. -/
def GradientAgreesAt (operation : Operation S) (scores : Tensor S) (number : Nat)
    (tolerances : Tolerances S D) (gradient : Tensor S) (k : Fin scores.size) : Prop :=
  ∃ a numeric, gradient.at? (scores.index k) = some a ∧
    HasSlope operation scores number tolerances.stepsize k numeric ∧
    close (widen a) numeric tolerances.gradient = true

/-- What is reported of a coordinate: that the operation refuses the step up, or else the step down,
or else an entry of the gradient far from the numeric derivative. -/
inductive CoordinateFault (operation : Operation S) (scores : Tensor S) (number : Nat)
    (tolerances : Tolerances S D) (gradient : Tensor S) (k : Fin scores.size) :
    CheckFailure S D → Prop
  | above {e : ShapeError}
    (h : operation.forward (scores.replace k (scores.entries.get k + tolerances.stepsize)) =
      .error e) :
    CoordinateFault operation scores number tolerances gradient k (.shape e)
  | below {outputs : List (Tensor S)} {e : ShapeError}
    (habove : operation.forward (scores.replace k (scores.entries.get k + tolerances.stepsize)) =
      .ok outputs)
    (h : operation.forward (scores.replace k (scores.entries.get k - tolerances.stepsize)) =
      .error e) :
    CoordinateFault operation scores number tolerances gradient k (.shape e)
  | far {a : S} {numeric : D} (hentry : gradient.at? (scores.index k) = some a)
    (hslope : HasSlope operation scores number tolerances.stepsize k numeric)
    (hfar : close (widen a) numeric tolerances.gradient = false) :
    CoordinateFault operation scores number tolerances gradient k
      (.gradientMismatch (scores.index k) (widen a) numeric)

section Coordinate

variable {entries : Vector S scores.size} {k : Fin scores.size}

theorem checkCoordinate_eq_ok_iff_agreesAt :
    checkCoordinate operation scores number tolerances entries k = .ok () ↔
      GradientAgreesAt operation scores number tolerances ⟨scores.shape, entries⟩ k := by
  have hentry := Tensor.at?_index ⟨scores.shape, entries⟩ k
  rw [checkCoordinate_eq_ok_iff]
  constructor
  · rintro ⟨numeric, hnumeric, hclose⟩
    exact ⟨_, numeric, hentry, centredDifference_eq_ok_iff.mp hnumeric, hclose⟩
  · rintro ⟨a, numeric, ha, hslope, hclose⟩
    cases hentry.symm.trans ha
    exact ⟨numeric, centredDifference_eq_ok_iff.mpr hslope, hclose⟩

theorem checkCoordinate_eq_error_iff {failure : CheckFailure S D}
    (hnumber : ∀ x outputs, operation.forward x = .ok outputs → number < outputs.length) :
    checkCoordinate operation scores number tolerances entries k = .error failure ↔
      CoordinateFault operation scores number tolerances ⟨scores.shape, entries⟩ k failure := by
  have hentry := Tensor.at?_index ⟨scores.shape, entries⟩ k
  unfold checkCoordinate
  rw [bind_eq_error_iff]
  constructor
  · rintro (h | ⟨numeric, hnumeric, h⟩)
    · obtain ⟨e, hrefusal, rfl⟩ := refuse_eq_error_iff.mp h
      obtain h | ⟨⟨outputs, habove⟩, h⟩ := (centredDifference_eq_error_iff hnumber).mp hrefusal
      · exact .above h
      · exact .below habove h
    · dsimp only at h
      split at h
      next => cases h
      next hfar =>
        cases h
        exact .far hentry (centredDifference_eq_ok_iff.mp (refuse_eq_ok_iff.mp hnumeric))
          (Bool.eq_false_iff.mpr hfar)
  · rintro (h | ⟨habove, h⟩ | ⟨ha, hslope, hfar⟩)
    · have hrefusal := (centredDifference_eq_error_iff (D := D) hnumber).mpr (.inl h)
      exact .inl (refuse_eq_error_iff.mpr ⟨_, hrefusal, rfl⟩)
    · have hrefusal :=
        (centredDifference_eq_error_iff (D := D) hnumber).mpr (.inr ⟨⟨_, habove⟩, h⟩)
      exact .inl (refuse_eq_error_iff.mpr ⟨_, hrefusal, rfl⟩)
    · cases hentry.symm.trans ha
      refine .inr ⟨_, refuse_eq_ok_iff.mpr (centredDifference_eq_ok_iff.mpr hslope), ?_⟩
      exact if_neg (Bool.eq_false_iff.mp hfar)

end Coordinate

/-! ## All coordinates -/

/-- The shape of the scores, and every coordinate in agreement. -/
def GradientPasses (operation : Operation S) (scores : Tensor S) (number : Nat)
    (tolerances : Tolerances S D) : Prop :=
  ∃ y gradient, HasOutput operation number scores y ∧
    operation.backward y scores number = .ok gradient ∧ gradient.shape = scores.shape ∧
      ∀ k, GradientAgreesAt operation scores number tolerances gradient k

/-- The first thing that goes wrong: the operation refuses the scores, or lacks the output, or
refuses to go back, or comes back with another shape, or else there is a first coordinate, in
row-major order, that is at fault. -/
inductive GradientFault (operation : Operation S) (scores : Tensor S) (number : Nat)
    (tolerances : Tolerances S D) : CheckFailure S D → Prop
  | forward {e : ShapeError} (h : operation.forward scores = .error e) :
    GradientFault operation scores number tolerances (.shape e)
  | output {outputs : List (Tensor S)} (hforward : operation.forward scores = .ok outputs)
    (h : outputs[number]? = none) :
    GradientFault operation scores number tolerances (.shape (.noSuchOutput number))
  | backward {y : Tensor S} {e : ShapeError} (hy : HasOutput operation number scores y)
    (h : operation.backward y scores number = .error e) :
    GradientFault operation scores number tolerances (.shape e)
  | shape {y gradient : Tensor S} (hy : HasOutput operation number scores y)
    (hbackward : operation.backward y scores number = .ok gradient)
    (h : gradient.shape ≠ scores.shape) :
    GradientFault operation scores number tolerances
      (.shape (.mismatch "gradient" scores.shape gradient.shape))
  | coordinate {y gradient : Tensor S} {k : Fin scores.size} {failure : CheckFailure S D}
    (hy : HasOutput operation number scores y)
    (hbackward : operation.backward y scores number = .ok gradient)
    (hshape : gradient.shape = scores.shape)
    (hbefore : ∀ j < k, GradientAgreesAt operation scores number tolerances gradient j)
    (h : CoordinateFault operation scores number tolerances gradient k failure) :
    GradientFault operation scores number tolerances failure

section Stages

omit [Scalar S] [Scalar D] [Precision S D] in
theorem hasOutput_cases (operation : Operation S) (number : Nat) (x : Tensor S) :
    (∃ e, operation.forward x = .error e) ∨
      (∃ outputs, operation.forward x = .ok outputs ∧ outputs[number]? = none) ∨
      ∃ y, HasOutput operation number x y := by
  cases hforward : operation.forward x with
  | error e => exact .inl ⟨e, rfl⟩
  | ok outputs =>
    cases hy : outputs[number]? with
    | none => exact .inr (.inl ⟨outputs, rfl, hy⟩)
    | some y => exact .inr (.inr ⟨y, outputs, hforward, hy⟩)

omit [Scalar S] [Scalar D] [Precision S D] in
theorem backward_cases (operation : Operation S) (scores : Tensor S) (number : Nat)
    (y : Tensor S) :
    (∃ e, operation.backward y scores number = .error e) ∨
      (∃ gradient, operation.backward y scores number = .ok gradient ∧
        gradient.shape ≠ scores.shape) ∨
      ∃ entries, operation.backward y scores number = .ok ⟨scores.shape, entries⟩ := by
  cases operation.backward y scores number with
  | error e => exact .inl ⟨e, rfl⟩
  | ok gradient =>
    by_cases hshape : gradient.shape = scores.shape
    · obtain ⟨_, entries⟩ := gradient
      subst hshape
      exact .inr (.inr ⟨entries, rfl⟩)
    · exact .inr (.inl ⟨gradient, rfl, hshape⟩)

variable {outputs : List (Tensor S)} {y gradient : Tensor S} {e : ShapeError}

theorem checkGradients_of_refused (hforward : operation.forward scores = .error e) :
    checkGradients operation scores number tolerances = .error (.shape e) := by
  unfold checkGradients
  rw [hforward]
  rfl

theorem checkGradients_of_missing (hforward : operation.forward scores = .ok outputs)
    (h : outputs[number]? = none) :
    checkGradients operation scores number tolerances =
      .error (.shape (.noSuchOutput number)) := by
  have hmissing : outputOf number outputs = .error (.noSuchOutput number) := by
    unfold outputOf
    rw [h]
  unfold checkGradients
  rw [hforward]
  show (refuse (outputOf number outputs) >>= fun y => _) = _
  rw [hmissing]
  rfl

theorem checkGradients_of_output (hy : HasOutput operation number scores y) :
    checkGradients operation scores number tolerances = (do
      let gradient ← refuse (operation.backward y scores number)
      let entries ← refuse (gradient.expectShape "gradient" scores.shape)
      (List.finRange scores.size).forM
        (checkCoordinate operation scores number tolerances entries)) := by
  unfold checkGradients
  rw [outputOf_forward_eq_ok_iff.mpr hy]
  rfl

theorem checkGradients_of_backward_refused (hy : HasOutput operation number scores y)
    (hbackward : operation.backward y scores number = .error e) :
    checkGradients operation scores number tolerances = .error (.shape e) := by
  rw [checkGradients_of_output hy, hbackward]
  rfl

theorem checkGradients_of_shape_ne (hy : HasOutput operation number scores y)
    (hbackward : operation.backward y scores number = .ok gradient)
    (h : gradient.shape ≠ scores.shape) :
    checkGradients operation scores number tolerances =
      .error (.shape (.mismatch "gradient" scores.shape gradient.shape)) := by
  rw [checkGradients_of_output hy, hbackward]
  show (refuse (gradient.expectShape "gradient" scores.shape) >>= fun entries => _) = _
  rw [expectShape_eq_error_iff.mpr ⟨h, rfl⟩]
  rfl

theorem checkGradients_of_gradient {entries : Vector S scores.size}
    (hy : HasOutput operation number scores y)
    (hbackward : operation.backward y scores number = .ok ⟨scores.shape, entries⟩) :
    checkGradients operation scores number tolerances = (List.finRange scores.size).forM
      (checkCoordinate operation scores number tolerances entries) := by
  rw [checkGradients_of_output hy, hbackward]
  show (refuse (Tensor.expectShape "gradient" scores.shape ⟨scores.shape, entries⟩) >>=
    fun entries => _) = _
  rw [expectShape_eq_ok_iff.mpr rfl]
  rfl

end Stages

/-- **The check of gradients passes exactly if every coordinate does.** -/
theorem checkGradients_eq_ok_iff_passes :
    checkGradients operation scores number tolerances = .ok () ↔
      GradientPasses operation scores number tolerances := by
  rw [checkGradients_eq_ok_iff]
  constructor
  · rintro ⟨outputs, y, ⟨shape, entries⟩, hforward, hy, hbackward, hagrees⟩
    obtain rfl : shape = scores.shape := hagrees.shape
    refine ⟨y, _, ⟨outputs, hforward, hy⟩, hbackward, rfl, fun k => ?_⟩
    exact checkCoordinate_eq_ok_iff_agreesAt.mp (gradientAgrees_iff.mp hagrees k)
  · rintro ⟨y, ⟨shape, entries⟩, ⟨outputs, hforward, hy⟩, hbackward, hshape, hall⟩
    obtain rfl : shape = scores.shape := hshape
    refine ⟨outputs, y, _, hforward, hy, hbackward, gradientAgrees_iff.mpr fun k => ?_⟩
    exact checkCoordinate_eq_ok_iff_agreesAt.mpr (hall k)

/-- **The check of gradients fails with the first thing that goes wrong.** -/
theorem checkGradients_eq_error_iff {failure : CheckFailure S D}
    (hcount : ∀ x x' outputs outputs', operation.forward x = .ok outputs →
      operation.forward x' = .ok outputs' → outputs.length = outputs'.length) :
    checkGradients operation scores number tolerances = .error failure ↔
      GradientFault operation scores number tolerances failure := by
  have hnumber {y : Tensor S} (hy : HasOutput operation number scores y) (x : Tensor S)
      (outputs : List (Tensor S)) (hx : operation.forward x = .ok outputs) :
      number < outputs.length := by
    obtain ⟨outputs', hforward, hy⟩ := hy
    rw [hcount x scores outputs outputs' hx hforward]
    exact (List.getElem?_eq_some_iff.mp hy).1
  constructor
  · intro h
    obtain ⟨e, hforward⟩ | ⟨outputs, hforward, hnone⟩ | ⟨y, hy⟩ :=
      hasOutput_cases operation number scores
    · cases (checkGradients_of_refused hforward).symm.trans h
      exact .forward hforward
    · cases (checkGradients_of_missing hforward hnone).symm.trans h
      exact .output hforward hnone
    obtain ⟨e, hbackward⟩ | ⟨gradient, hbackward, hshape⟩ | ⟨entries, hbackward⟩ :=
      backward_cases operation scores number y
    · cases (checkGradients_of_backward_refused hy hbackward).symm.trans h
      exact .backward hy hbackward
    · cases (checkGradients_of_shape_ne hy hbackward hshape).symm.trans h
      exact .shape hy hbackward hshape
    · rw [checkGradients_of_gradient hy hbackward, forM_finRange_eq_error_iff] at h
      obtain ⟨k, hfailure, hbefore⟩ := h
      exact .coordinate hy hbackward rfl
        (fun j hj => checkCoordinate_eq_ok_iff_agreesAt.mp (hbefore j hj))
        ((checkCoordinate_eq_error_iff (hnumber hy)).mp hfailure)
  · rintro (hforward | ⟨hforward, hnone⟩ | ⟨hy, hbackward⟩ | ⟨hy, hbackward, hshape⟩ |
      @⟨y, gradient, k, _, hy, hbackward, hshape, hbefore, hfault⟩)
    · exact checkGradients_of_refused hforward
    · exact checkGradients_of_missing hforward hnone
    · exact checkGradients_of_backward_refused hy hbackward
    · exact checkGradients_of_shape_ne hy hbackward hshape
    · obtain ⟨_, entries⟩ := gradient
      obtain rfl := hshape
      rw [checkGradients_of_gradient hy hbackward, forM_finRange_eq_error_iff]
      exact ⟨k, (checkCoordinate_eq_error_iff (hnumber hy)).mpr hfault,
        fun j hj => checkCoordinate_eq_ok_iff_agreesAt.mpr (hbefore j hj)⟩

end CrossEntropy
