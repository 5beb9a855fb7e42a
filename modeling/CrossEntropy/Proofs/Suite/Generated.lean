import CrossEntropy.Proofs.Check.Accepted
import CrossEntropy.Proofs.Random.SoftLabels
import CrossEntropy.Proofs.Refusal
import CrossEntropy.Proofs.Suite.Examples

/-!
# Generated inputs

What a case generates fits together, whatever words the source hands out: labels have the shape that
the scores ask for and name classes, targets are distributions, weights are fractions. So the checks
of a generated example can only find numbers that are not close, unless the axis is out of range.

* `WellFormed`: inputs of a case that fit together, with targets of some kind;
* `PositiveTargets`, `DistributionTargets`: the kinds of targets;
* `satisfiesM_generate`: what a case generates fits together;
* `WellFormed.accepts`, `WellFormed.axisOutOfRange`: what the checks make of it;
* **`draw_wellFormed`**: generated inputs and their checks.
-/

namespace CrossEntropy

open Scalar Precision

/-! ## Inputs that fit together -/

section WellFormed

/-- The sizes of a matrix of scores. -/
structure MatrixSizes (n d : Nat) : Prop where
  rows : 2 ≤ n ∧ n ≤ 10
  classes : 4 ≤ d ∧ d ≤ 16

/-- The sizes of a batch of images of a case. -/
def Case.ImageSizes : Case → (n d h w : Nat) → Prop
  | spatialSoftmaxWithLoss, n, d, h, w => (2 ≤ n ∧ n ≤ 5) ∧ (2 ≤ d ∧ d ≤ 4) ∧ h = 12 ∧ w = 18
  | largeSpatialSoftmaxWithLoss, n, d, h, w =>
    n = 8 ∧ d = 4 ∧ (64 ≤ h ∧ h ≤ 255) ∧ (64 ≤ w ∧ w ≤ 255)
  | _, _, _, _, _ => False

variable {S : Type} [Scalar S]

/-- Inputs of a case that fit together: as many labels, targets or weights as there are locations,
every label a class or, for pixels, the ignored label, targets of a given kind, and weights from
zero on and below one. -/
inductive WellFormed (Target : (n d : Nat) → Vector S (Shape.size [n, d]) → Prop) :
    Case → CaseInputs S → Prop
  | softmax {n d : Nat} (hsizes : MatrixSizes n d) (x : Vector S (Shape.size [n, d])) :
      WellFormed Target .softmax (.ofScores ⟨[n, d], x⟩)
  | softmaxAxis (axis : UInt64) (x : Vector S (Shape.size [1, 2, 3, 2, 1])) :
      WellFormed Target (.softmaxAxis axis) (.ofScores ⟨[1, 2, 3, 2, 1], x⟩)
  | labels {n d : Nat} (hsizes : MatrixSizes n d) (x : Vector S (Shape.size [n, d]))
      {labels : Vector Int32 (Shape.size [n])}
      (hlabels : ∀ label ∈ labels, 0 ≤ label.toInt ∧ label.toInt < d) :
      WellFormed Target .softmaxWithLoss
        { CaseInputs.ofScores ⟨[n, d], x⟩ with labels := some ⟨[n], labels⟩ }
  | distributions {n d : Nat} (hsizes : MatrixSizes n d) (x : Vector S (Shape.size [n, d]))
      {targets : Vector S (Shape.size [n, d])}
      (htargets : Target n d targets) :
      WellFormed Target .softLabelSoftmaxWithLoss
        { CaseInputs.ofScores ⟨[n, d], x⟩ with targets := some ⟨[n, d], targets⟩ }
  | pixels {case : Case} {n d h w : Nat} (hsizes : case.ImageSizes n d h w)
      (x : Vector S (Shape.size [n, d, h, w])) {labels : Vector Int32 (Shape.size [n, h, w])}
      (hlabels : ∀ label ∈ labels, -1 ≤ label.toInt ∧ label.toInt < d)
      {weights : Option (Vector S (Shape.size [n, h, w]))}
      (hweights : ∀ given ∈ weights, ∀ v ∈ given, le 0 v = true ∧ lt v 1 = true)
      (hlarge : case = .largeSpatialSoftmaxWithLoss → weights = none) :
      WellFormed Target case
        { CaseInputs.ofScores ⟨[n, d, h, w], x⟩ with
          labels := some ⟨[n, h, w], labels⟩, weights := weights.map (Tensor.mk [n, h, w]) }

/-- Targets without an entry that is zero or below. -/
def PositiveTargets (n d : Nat) (targets : Vector S (Shape.size [n, d])) : Prop :=
  ∀ i j, lt 0 (Reference.byClass targets i j) = true

/-- Positive targets of which each row sums to one. -/
def DistributionTargets {F : Type} [ExactScalar F] (n d : Nat)
    (targets : Vector F (Shape.size [n, d])) : Prop :=
  PositiveTargets n d targets ∧ ∀ i, ∑ j, Reference.byClass targets i j = 1

end WellFormed

/-! ## Generating -/

section Generate

theorem IntRange.Contains.toInt {r : IntRange} {label : Int32} (h : r.Contains label) {d : Nat}
    (hhigh : r.high = .ofNat d) (hd : d ≤ 16) : r.low.toInt ≤ label.toInt ∧ label.toInt < d := by
  have hd : (Int32.ofNat d).toInt = d := Int32.toInt_ofNat_of_lt (by omega)
  rw [← hd, ← hhigh]
  exact ⟨Int32.le_iff_toInt_le.mp h.1, Int32.lt_iff_toInt_lt.mp h.2⟩

variable {σ S : Type} [Source σ] [Scalar S] [Sampled S]

theorem satisfiesM_matrixSizes :
    SatisfiesM (fun sizes => MatrixSizes sizes.1.1 sizes.2.1) (Draw.matrixSizes : Draw σ _) :=
  SatisfiesM.trivial.bind fun n _ => SatisfiesM.trivial.bind fun d _ =>
    SatisfiesM.pure ⟨n.2, d.2⟩

theorem satisfiesM_uniformScores (shape : Shape) :
    SatisfiesM (·.shape = shape) (Draw.uniformScores shape : Draw σ (Tensor S)) :=
  (satisfiesM_tensor SatisfiesM.trivial shape).bind fun _ hx => SatisfiesM.pure hx.1

theorem satisfiesM_normalScores (shape : Shape) :
    SatisfiesM (·.shape = shape) (Draw.normalScores shape : Draw σ (Tensor S)) :=
  (satisfiesM_tensor SatisfiesM.trivial shape).bind fun _ hx => SatisfiesM.pure hx.1

theorem satisfiesM_labels (shape : Shape) (r : IntRange) :
    SatisfiesM (fun x => x.shape = shape ∧ ∀ label ∈ x.entries, r.Contains label)
      (Draw.labels shape r : Draw σ (Tensor Int32)) :=
  satisfiesM_tensor (satisfiesM_int32 r) shape

variable [LawfulSampled S] {Target : (n d : Nat) → Vector S (Shape.size [n, d]) → Prop}

theorem satisfiesM_weights (shape : Shape) :
    SatisfiesM (fun x => x.shape = shape ∧ ∀ v ∈ x.entries, le 0 v = true ∧ lt v 1 = true)
      (Draw.weights shape : Draw σ (Tensor S)) :=
  satisfiesM_tensor LawfulSampled.within_unit shape

theorem satisfiesM_spatialInputs {case : Case} {n d h w : Nat} (hsizes : case.ImageSizes n d h w)
    (hd : 0 < d ∧ d ≤ 16) (weighted : Bool)
    (hlarge : case = .largeSpatialSoftmaxWithLoss → weighted = false) :
    SatisfiesM (WellFormed Target case)
      (Draw.spatialInputs n d h w hd weighted : Draw σ (CaseInputs S)) := by
  refine (satisfiesM_uniformScores _).bind ?_
  rintro ⟨_, x⟩ rfl
  refine (satisfiesM_labels _ _).bind ?_
  rintro ⟨_, labels⟩ ⟨rfl, hlabels⟩
  have hlabels : ∀ label ∈ labels, -1 ≤ label.toInt ∧ label.toInt < d :=
    fun label hmem => (hlabels label hmem).toInt rfl hd.2
  have hinputs (weights : Option (Vector S (Shape.size [n, h, w]))) :=
    @WellFormed.pixels S _ Target case n d h w hsizes x labels hlabels weights
  cases weighted with
  | false => exact SatisfiesM.pure (hinputs none nofun fun _ => rfl)
  | true =>
    refine (satisfiesM_weights _).bind ?_
    rintro ⟨_, weights⟩ ⟨rfl, hweights⟩
    refine SatisfiesM.pure (hinputs (some weights) ?_ fun h => nomatch hlarge h)
    rintro _ ⟨⟩
    exact hweights

/-- What a case generates fits together, with targets of any kind that normalized ones are. -/
theorem satisfiesM_generate (htarget : ∀ {n d : Nat} {targets : Vector S (Shape.size [n, d])},
      MatrixSizes n d → IsNormalized targets → Target n d targets) (case : Case) :
    SatisfiesM (WellFormed Target case) (case.generate : Draw σ (CaseInputs S)) := by
  cases case with
  | softmax =>
    refine satisfiesM_matrixSizes.bind ?_
    rintro ⟨n, d⟩ hsizes
    refine (satisfiesM_uniformScores _).bind ?_
    rintro ⟨_, x⟩ rfl
    exact SatisfiesM.pure (.softmax hsizes x)
  | softmaxAxis axis =>
    refine (satisfiesM_normalScores _).bind ?_
    rintro ⟨_, x⟩ rfl
    exact SatisfiesM.pure (.softmaxAxis axis x)
  | softmaxWithLoss =>
    refine satisfiesM_matrixSizes.bind ?_
    rintro ⟨n, d, hd⟩ hsizes
    refine (satisfiesM_uniformScores _).bind ?_
    rintro ⟨_, x⟩ rfl
    refine (satisfiesM_labels _ _).bind ?_
    rintro ⟨_, labels⟩ ⟨rfl, hlabels⟩
    exact SatisfiesM.pure
      (.labels hsizes x fun label hmem => (hlabels label hmem).toInt rfl hd.2)
  | softLabelSoftmaxWithLoss =>
    refine satisfiesM_matrixSizes.bind ?_
    rintro ⟨n, d⟩ hsizes
    refine (satisfiesM_uniformScores _).bind ?_
    rintro ⟨_, x⟩ rfl
    refine (satisfiesM_softLabels _ _).bind ?_
    rintro _ ⟨targets, htargets, rfl⟩
    exact SatisfiesM.pure (.distributions hsizes x (htarget hsizes htargets))
  | spatialSoftmaxWithLoss =>
    refine SatisfiesM.trivial.bind fun n _ => SatisfiesM.trivial.bind fun d _ => ?_
    have hsizes : Case.ImageSizes .spatialSoftmaxWithLoss n d 12 18 := ⟨n.2, d.2, rfl, rfl⟩
    exact SatisfiesM.trivial.bind fun weighted _ =>
      satisfiesM_spatialInputs hsizes _ weighted nofun
  | largeSpatialSoftmaxWithLoss =>
    refine SatisfiesM.trivial.bind fun h _ => SatisfiesM.trivial.bind fun w _ => ?_
    have hsizes : Case.ImageSizes .largeSpatialSoftmaxWithLoss 8 4 h w := ⟨rfl, rfl, h.2, w.2⟩
    exact satisfiesM_spatialInputs hsizes _ false fun _ => rfl

end Generate

section Targets

variable {n d : Nat}

theorem positiveTargets_of_isNormalized {S : Type} [Scalar S] [Sampled S] [MonotoneScalar S]
    [OffsetScalar S] {targets : Vector S (Shape.size [n, d])} (hsizes : MatrixSizes n d)
    (h : IsNormalized targets) : PositiveTargets n d targets := by
  intro i j
  have hd := hsizes.classes
  obtain ⟨row, hrow, heq⟩ := h i
  rw [heq]
  exact get_normalized_pos (by omega) hrow j

theorem distributionTargets_of_isNormalized {F : Type} [LinearOrder F] [ExactScalar F]
    [OrderedScalar F] [Sampled F] [OffsetScalar F] {targets : Vector F (Shape.size [n, d])}
    (hsizes : MatrixSizes n d) (h : IsNormalized targets) : DistributionTargets n d targets := by
  refine ⟨positiveTargets_of_isNormalized hsizes h, fun i => ?_⟩
  have hd := hsizes.classes
  obtain ⟨row, hrow, heq⟩ := h i
  have hpos : 0 < total row := OrderedScalar.lt_iff.mp (total_pos (by omega) hrow)
  rw [heq]
  exact sum_get_normalized hpos.ne'

end Targets

/-! ## Acceptance -/

section Accept

variable {S D : Type} [Scalar S] [Scalar D] [Precision S D] {case : Case} {inputs : CaseInputs S}

theorem accepts_softmax {axis : Nat} {s : Split inputs.scores.size}
    (hs : Split.rows inputs.scores.shape axis = .ok s)
    (hsubject : (case.subject inputs : Except ShapeError (Subject S D)) = do
      return ⟨softmax axis, [← Reference.softmaxAxis axis (inputs.scores.map widen)]⟩) :
    case.Accepts inputs := by
  rw [← softmaxForward_eq_softmaxAxis] at hsubject
  have hreference : softmaxForward axis (inputs.scores.map (widen : S → D)) = .ok _ :=
    bind_eq_ok_iff.mpr ⟨s, hs, rfl⟩
  rw [hreference] at hsubject
  exact ⟨_, hsubject, softmax_accepts hs⟩

theorem accepts_softmaxWithLoss {targets : Targets S} {f : Fitted S inputs.scores.shape}
    (hf : Fits targets inputs.scores.shape f) {p : Tensor D} {loss : D}
    (hsubject : case.subject inputs = .ok ⟨softmaxWithLoss targets, [p, Tensor.scalar loss]⟩)
    (hp : p.shape = inputs.scores.shape) : case.Accepts inputs :=
  ⟨_, hsubject, by simpa [hp, Tensor.scalar] using softmaxWithLoss_accepts hf⟩

theorem accepts_labels {n d : Nat} (hd : d ≠ 0) (x : Vector S (Shape.size [n, d]))
    {labels : Vector Int32 (Shape.size [n])}
    (hlabels : ∀ label ∈ labels, 0 ≤ label.toInt ∧ label.toInt < d) :
    Case.Accepts .softmaxWithLoss
      { CaseInputs.ofScores ⟨[n, d], x⟩ with labels := some ⟨[n], labels⟩ } := by
  obtain ⟨classes, hread⟩ := exists_readings fun label hmem => isSome_classOf? (hlabels label hmem)
  have hreference : Reference.softmaxCrossEntropy (⟨[n, d], x.map widen⟩ : Tensor D)
      ⟨[n], labels⟩ = .ok _ :=
    bind_eq_ok_iff.mpr ⟨labels, expectShape_eq_ok_iff.mpr rfl,
      bind_eq_ok_iff.mpr ⟨classes, hread, rfl⟩⟩
  exact accepts_softmaxWithLoss (.labels hd hread)
    (bind_eq_ok_iff.mpr ⟨⟨[n], labels⟩, rfl, bind_eq_ok_iff.mpr ⟨(), rfl,
      bind_eq_ok_iff.mpr ⟨_, hreference, rfl⟩⟩⟩) rfl

theorem accepts_distributions {n d : Nat} (hd : d ≠ 0) (x targets : Vector S (Shape.size [n, d])) :
    Case.Accepts .softLabelSoftmaxWithLoss
      { CaseInputs.ofScores ⟨[n, d], x⟩ with targets := some ⟨[n, d], targets⟩ } := by
  have hreference : Reference.softLabelCrossEntropy (⟨[n, d], x.map widen⟩ : Tensor D)
      ⟨[n, d], targets.map widen⟩ = .ok _ :=
    bind_eq_ok_iff.mpr ⟨targets.map widen, expectShape_eq_ok_iff.mpr rfl, rfl⟩
  exact accepts_softmaxWithLoss (.distributions hd)
    (bind_eq_ok_iff.mpr ⟨⟨[n, d], targets⟩, rfl, bind_eq_ok_iff.mpr ⟨(), rfl,
      bind_eq_ok_iff.mpr ⟨_, hreference, rfl⟩⟩⟩) rfl

theorem accepts_pixels {n d h w : Nat} (hsizes : case.ImageSizes n d h w)
    (x : Vector S (Shape.size [n, d, h, w])) {labels : Vector Int32 (Shape.size [n, h, w])}
    (hlabels : ∀ label ∈ labels, -1 ≤ label.toInt ∧ label.toInt < d)
    (weights : Option (Vector S (Shape.size [n, h, w]))) :
    case.Accepts
      { CaseInputs.ofScores ⟨[n, d, h, w], x⟩ with
        labels := some ⟨[n, h, w], labels⟩, weights := weights.map (Tensor.mk [n, h, w]) } := by
  have hd : d ≠ 0 := by
    cases case <;> simp only [Case.ImageSizes] at hsizes <;> omega
  let given := weights.map (Tensor.mk [n, h, w])
  obtain ⟨marks, hread⟩ := exists_readings fun label hmem => isSome_markOf? (hlabels label hmem)
  obtain ⟨weight, hweight⟩ := (failAlike_expectWeights (widen : S → D) given n h w).exists_ok
    (expectWeights_eq_ok_iff.mpr rfl)
  have hranks : given.forM (Tensor.expectRank 3) = .ok () := by
    cases weights <;> rfl
  have hreference : Reference.spatialSoftmaxCrossEntropy (⟨[n, d, h, w], x.map widen⟩ : Tensor D)
      ⟨[n, h, w], labels⟩ (given.map (·.map widen)) = .ok _ :=
    bind_eq_ok_iff.mpr ⟨labels, expectShape_eq_ok_iff.mpr rfl, bind_eq_ok_iff.mpr
      ⟨weight, hweight, (if_neg hd).trans (bind_eq_ok_iff.mpr ⟨marks, hread, rfl⟩)⟩⟩
  cases case
  case spatialSoftmaxWithLoss | largeSpatialSoftmaxWithLoss =>
    exact accepts_softmaxWithLoss (.pixels hd hread)
      (bind_eq_ok_iff.mpr ⟨⟨[n, h, w], labels⟩, rfl, bind_eq_ok_iff.mpr ⟨(), rfl,
        bind_eq_ok_iff.mpr ⟨(), hranks, bind_eq_ok_iff.mpr ⟨_, hreference, rfl⟩⟩⟩⟩) rfl
  all_goals exact hsizes.elim

/-- **Inputs that fit together are accepted**, with an axis that exists. -/
theorem WellFormed.accepts {Target : (n d : Nat) → Vector S (Shape.size [n, d]) → Prop}
    (h : WellFormed Target case inputs) (haxis : ∀ axis, case = .softmaxAxis axis → axis ≤ 5) :
    case.Accepts inputs := by
  cases h with
  | softmax hsizes x =>
    have hd := hsizes.classes
    refine accepts_softmax (rows_eq_ok_iff.mpr ⟨Nat.le_succ 1, ?_, rfl⟩) rfl
    exact Nat.mul_ne_zero (by omega) Nat.one_ne_zero
  | softmaxAxis axis x =>
    have haxis : axis.toNat ≤ 5 := UInt64.le_iff_toNat_le.mp (haxis axis rfl)
    have hclasses : ∀ axis : Fin 6, Shape.size ([1, 2, 3, 2, 1].drop axis) ≠ 0 := by decide
    refine accepts_softmax (rows_eq_ok_iff.mpr ⟨haxis, ?_, rfl⟩) rfl
    exact hclasses ⟨axis.toNat, by omega⟩
  | labels hsizes x hlabels =>
    have hd := hsizes.classes
    exact accepts_labels (by omega) x hlabels
  | distributions hsizes x =>
    have hd := hsizes.classes
    exact accepts_distributions (by omega) x _
  | pixels hsizes x hlabels => exact accepts_pixels hsizes x hlabels _

theorem WellFormed.axisOutOfRange {Target : (n d : Nat) → Vector S (Shape.size [n, d]) → Prop}
    {axis : UInt64} (h : WellFormed Target (.softmaxAxis axis) inputs) (haxis : 5 < axis)
    (tolerances : Tolerances S D) :
    checkCase (.softmaxAxis axis) inputs tolerances =
      .error (.shape (.axisOutOfRange axis.toNat 5)) := by
  cases h with
  | softmaxAxis axis x =>
    have hlength : [1, 2, 3, 2, 1].length < axis.toNat := UInt64.lt_iff_toNat_lt.mp haxis
    have hrows : Split.rows [1, 2, 3, 2, 1] axis.toNat = .error (.axisOutOfRange axis.toNat 5) := by
      rw [Split.rows, flattenedDimensions, if_pos hlength]
      rfl
    have hreference : Reference.softmaxAxis axis.toNat
        (⟨[1, 2, 3, 2, 1], x.map widen⟩ : Tensor D) = .error (.axisOutOfRange axis.toNat 5) := by
      rw [← softmaxForward_eq_softmaxAxis, softmaxForward, hrows]
      rfl
    have hsubject : Case.subject (.softmaxAxis axis) (.ofScores ⟨[1, 2, 3, 2, 1], x⟩) =
        (.error (.axisOutOfRange axis.toNat 5) : Except ShapeError (Subject S D)) :=
      congrArg (· >>= _) hreference
    unfold checkCase
    rw [hsubject]
    rfl
  | pixels hsizes => exact hsizes.elim

end Accept

/-! ## Generated examples -/

section Examples

variable {σ S D F : Type} [Source σ] [Scalar S] [Scalar D] [Precision S D] [Sampled S]
  [LawfulSampled S] [MonotoneScalar S] [OffsetScalar S] [LinearOrder F] [ExactScalar F]
  [OrderedScalar F] [Sampled F] [LawfulSampled F] [OffsetScalar F]

/-- **Generated inputs fit together**, from any source: with positive targets in working precision,
with distributions as targets in exact arithmetic. Their checks end with no other failure than a
number that is not close, unless the axis is none of the five dimensions. -/
theorem draw_wellFormed (case : Case) (source : σ) :
    WellFormed PositiveTargets case (case.draw source : CaseInputs S × σ).1 ∧
    WellFormed DistributionTargets case (case.draw source : CaseInputs F × σ).1 ∧
    ∀ tolerances : Tolerances S D,
      ((∀ axis, case = .softmaxAxis axis → axis ≤ 5) →
        OnlyNumeric (checkCase case (case.draw source).1 tolerances)) ∧
      ∀ axis, case = .softmaxAxis axis → 5 < axis →
        checkCase case (case.draw source).1 tolerances =
          .error (.shape (.axisOutOfRange axis.toNat 5)) := by
  have hpositive : WellFormed PositiveTargets case (case.draw source : CaseInputs S × σ).1 :=
    satisfiesM_iff.mp (satisfiesM_generate positiveTargets_of_isNormalized case) source
  have hexact : WellFormed DistributionTargets case (case.draw source : CaseInputs F × σ).1 :=
    satisfiesM_iff.mp (satisfiesM_generate distributionTargets_of_isNormalized case) source
  refine ⟨hpositive, hexact, fun tolerances => ⟨fun haxis => ?_, ?_⟩⟩
  · exact checkCase_onlyNumeric (hpositive.accepts haxis) tolerances
  · rintro axis rfl haxis
    exact hpositive.axisOutOfRange haxis tolerances

/-- Inputs drawn from words that repeat, with and without infinities, and an axis too many. -/
theorem draw_wellFormed_words :
    letI := ExactScalar.rational
    letI : Sampled ℚ := .evenly (1 / 100)
    let source := WordCycle.ofWords [3, 0xfedcba9876543210, 12345]
    let case : Case := .softLabelSoftmaxWithLoss
    let tolerances : Tolerances Extended Extended :=
      ⟨.finite (1 / 10), .infinite false, .finite 0, .finite 0, .finite 0⟩
    WellFormed PositiveTargets case (case.draw source : CaseInputs Extended × WordCycle).1 ∧
      WellFormed DistributionTargets case (case.draw source : CaseInputs ℚ × WordCycle).1 ∧
      OnlyNumeric (checkCase case (case.draw source).1 tolerances) ∧
      checkCase (.softmaxAxis 6) (Case.draw (.softmaxAxis 6) source).1 tolerances =
        .error (.shape (.axisOutOfRange 6 5)) := by
  let := ExactScalar.rational
  let : Sampled ℚ := .evenly (1 / 100)
  intro source case tolerances
  have : OrderedScalar ℚ := ExactScalar.orderedScalar ℚ _ _ _
  have : LawfulSampled ℚ :=
    ⟨within_evenly (by decide +kernel), within_evenly (by decide +kernel)⟩
  have : OffsetScalar ℚ := ⟨by decide +kernel, by decide +kernel, by decide +kernel⟩
  obtain ⟨hpositive, hexact, hchecks⟩ := draw_wellFormed (S := Extended) (F := ℚ) case source
  obtain ⟨-, -, haxis⟩ :=
    draw_wellFormed (S := Extended) (F := ℚ) (.softmaxAxis 6) source
  exact ⟨hpositive, hexact, (hchecks tolerances).1 nofun, (haxis tolerances).2 6 rfl (by decide)⟩

end Examples

end CrossEntropy
