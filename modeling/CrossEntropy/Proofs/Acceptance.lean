import CrossEntropy.Proofs.Probabilities
import CrossEntropy.Proofs.Refusal

/-!
# Accepted and refused scores

Which scores the loss operation accepts and what it says of the others, in terms of shapes and
labels alone. What is wrong first is what is told.

* `Targets.Suits`: targets and scores are made for each other;
* `Targets.Refused`, `Targets.BackwardRefused`: the error of the forward and of the backward pass;
* `Targets.Suits.exists_fits`, `Targets.Refused.resolve_eq`: what suits is resolved, what is refused
  is not;
* `resolve_eq_error_iff`: targets are refused for the first thing that is wrong;
* **`softmaxWithLoss_accepts_iff`**: the outcome of both passes.
-/

namespace CrossEntropy

open Scalar Precision

/-! ## What targets ask for -/

/-- The number of classes of scores. -/
def Shape.classes (shape : Shape) : Nat := shape.getD 1 0

namespace Targets

variable {S : Type}

/-- The rank of the scores that targets are for. -/
def rank (targets : Targets S) : Nat :=
  if targets.isSpatial then 4 else 2

/-- What errors call the tensor of targets. -/
def input : Targets S → String
  | distributions _ => "targets"
  | _ => "labels"

/-- The shape of the tensor of targets. -/
def shape : Targets S → Shape
  | labels given => given.shape
  | distributions given => given.shape
  | pixels given _ => given.shape

/-- The shape of targets for scores of a shape: a distribution has an entry for each score, labels
one for each location. -/
def shapeFor : Targets S → Shape → Shape
  | distributions _, shape => shape
  | _, shape => shape.eraseIdx 1

/-- The labels among the targets, if they are labels. -/
def labels? : Targets S → Option (Tensor Int32)
  | labels given => some given
  | distributions _ => none
  | pixels given _ => some given

/-- The weights among the targets, if there are any. -/
def weights? : Targets S → Option (Tensor S)
  | pixels _ weights => weights
  | _ => none

/-- A label is one of `d` classes or, for pixels only, says that there is none. -/
def Names (targets : Targets S) (d : Nat) (label : Int32) : Prop :=
  (0 ≤ label.toInt ∧ label.toInt < d) ∨ (targets.isSpatial = true ∧ label.toInt = -1)

/-- Labels and weights have the shapes that scores of a shape ask for, every label names one of
the classes, and there is a class. -/
structure Suits (targets : Targets S) (shape : Shape) : Prop where
  rank : shape.length = targets.rank
  given : targets.shape = targets.shapeFor shape
  weights : ∀ w ∈ targets.weights?, w.shape = shape.eraseIdx 1
  labels : ∀ given ∈ targets.labels?, ∀ k, targets.Names shape.classes (given.entries.get k)
  classes : 1 ≤ shape.classes

/-- **The first thing that is wrong**: the rank of the scores, the shape of labels or distributions,
the shape of weights, the first label that names nothing, the lack of classes. -/
inductive Refused (targets : Targets S) (shape : Shape) : ShapeError → Prop
  | rank (h : shape.length ≠ targets.rank) : Refused targets shape (.wrongRank targets.rank shape)
  | given (hrank : shape.length = targets.rank) (h : targets.shape ≠ targets.shapeFor shape) :
      Refused targets shape (.mismatch targets.input (targets.shapeFor shape) targets.shape)
  | weights (hrank : shape.length = targets.rank) (hgiven : targets.shape = targets.shapeFor shape)
      {w : Tensor S} (hw : w ∈ targets.weights?) (h : w.shape ≠ shape.eraseIdx 1) :
      Refused targets shape (.mismatch "weights" (shape.eraseIdx 1) w.shape)
  | label (hrank : shape.length = targets.rank) (hgiven : targets.shape = targets.shapeFor shape)
      (hweights : ∀ w ∈ targets.weights?, w.shape = shape.eraseIdx 1)
      {given : Tensor Int32} (hlabels : given ∈ targets.labels?) {k : Fin given.size}
      (h : ¬ targets.Names shape.classes (given.entries.get k))
      (hfirst : ∀ j < k, targets.Names shape.classes (given.entries.get j)) :
      Refused targets shape
        (.labelOutOfRange (given.entries.get k) (given.index k) shape.classes)
  | classes (hrank : shape.length = targets.rank) (hgiven : targets.shape = targets.shapeFor shape)
      (hweights : ∀ w ∈ targets.weights?, w.shape = shape.eraseIdx 1)
      (hlabels : ∀ given ∈ targets.labels?, ∀ k,
        targets.Names shape.classes (given.entries.get k))
      (h : shape.classes = 0) : Refused targets shape (.noClasses shape)

/-- The error of the backward pass: the number of the output counts before everything else, and
the shape of the out-gradient before what the forward pass tests. -/
inductive BackwardRefused (targets : Targets S) (shape outShape : Shape) :
    (output : Nat) → ShapeError → Prop
  | noSuchOutput {output : Nat} (h : 1 < output) :
      BackwardRefused targets shape outShape output (.noSuchOutput output)
  | probabilities (h : outShape ≠ shape) :
      BackwardRefused targets shape outShape 0 (.mismatch "out_gradient" shape outShape)
  | loss (h : Shape.size outShape ≠ 1) :
      BackwardRefused targets shape outShape 1 (.mismatch "out_gradient" [] outShape)
  | probabilities_scores (hout : outShape = shape) {e : ShapeError} (h : targets.Refused shape e) :
      BackwardRefused targets shape outShape 0 e
  | loss_scores (hout : Shape.size outShape = 1) {e : ShapeError} (h : targets.Refused shape e) :
      BackwardRefused targets shape outShape 1 e

/-- Scores suit targets, or there is a first thing that is wrong with them. -/
theorem suits_or_refused (targets : Targets S) (shape : Shape) :
    targets.Suits shape ∨ ∃ e, targets.Refused shape e := by
  by_cases hrank : shape.length = targets.rank
  case neg => exact .inr ⟨_, .rank hrank⟩
  by_cases hgiven : targets.shape = targets.shapeFor shape
  case neg => exact .inr ⟨_, .given hrank hgiven⟩
  by_cases hweights : ∀ w ∈ targets.weights?, w.shape = shape.eraseIdx 1
  case neg =>
    push Not at hweights
    obtain ⟨w, hw, h⟩ := hweights
    exact .inr ⟨_, .weights hrank hgiven hw h⟩
  by_cases hlabels : ∀ given ∈ targets.labels?, ∀ k,
      targets.Names shape.classes (given.entries.get k)
  case neg =>
    push Not at hlabels
    obtain ⟨given, hmem, hbad⟩ := hlabels
    obtain ⟨k, hk, hfirst⟩ := wellFounded_lt.has_min
      {k | ¬ targets.Names shape.classes (given.entries.get k)} hbad
    refine .inr ⟨_, .label hrank hgiven hweights hmem hk fun j hj => ?_⟩
    exact not_not.mp fun h => hfirst j h hj
  by_cases hclasses : shape.classes = 0
  · exact .inr ⟨_, .classes hrank hgiven hweights hlabels hclasses⟩
  · exact .inl ⟨hrank, hgiven, hweights, hlabels, Nat.one_le_iff_ne_zero.mpr hclasses⟩

theorem Refused.exists_backwardRefused {targets : Targets S} {shape : Shape} {e : ShapeError}
    (h : targets.Refused shape e) (outShape : Shape) (output : Nat) :
    ∃ e, targets.BackwardRefused shape outShape output e := by
  obtain rfl | rfl | houtput : output = 0 ∨ output = 1 ∨ 1 < output := by omega
  · by_cases hout : outShape = shape
    · exact ⟨e, .probabilities_scores hout h⟩
    · exact ⟨_, .probabilities hout⟩
  · by_cases hout : Shape.size outShape = 1
    · exact ⟨e, .loss_scores hout h⟩
    · exact ⟨_, .loss hout⟩
  · exact ⟨_, .noSuchOutput houtput⟩

/-! ## What is wrong first -/

theorem names_labels_iff {given : Tensor Int32} {d : Nat} {label : Int32} :
    (labels given : Targets S).Names d label ↔ classOf? d label ≠ none := by
  rw [ne_eq, classOf?_eq_none_iff, not_not]
  simp [Names, isSpatial]

theorem names_pixels_iff {given : Tensor Int32} {weights : Option (Tensor S)} {d : Nat}
    {label : Int32} : (pixels given weights).Names d label ↔ markOf? d label ≠ none := by
  rw [ne_eq, markOf?_eq_none_iff, not_not]
  simp [Names, isSpatial]

variable [Scalar S] {targets : Targets S} {e : ShapeError} {n d h w : Nat}

theorem resolve_of_rank {shape : Shape} (hrank : shape.length ≠ targets.rank) :
    targets.resolve shape = .error (.wrongRank targets.rank shape) := by
  unfold resolve
  split
  case h_4 => rfl
  case h_5 hpixels _ _ _ =>
    have hmatrix : targets.rank = 2 := by
      cases targets with
      | pixels given weights => exact (hpixels given weights rfl).elim
      | _ => rfl
    rw [hmatrix]
    rfl
  all_goals exact absurd rfl hrank

theorem Refused.resolve_labels {given : Tensor Int32}
    (hrefused : (labels given : Targets S).Refused [n, d] e) :
    (labels given : Targets S).resolve [n, d] = .error e := by
  rw [CrossEntropy.resolve_labels]
  simp only [bind_eq_error_iff, expectShape_eq_error_iff, expectShape_eq_ok_iff,
    readLabels_eq_error_iff]
  obtain ⟨_, entries⟩ := given
  cases hrefused with
  | rank hrank => exact absurd rfl hrank
  | given _ hgiven => exact .inl ⟨hgiven, rfl⟩
  | weights _ _ hw => cases hw
  | label _ hgiven _ hmem hk hfirst =>
    cases hmem
    cases hgiven
    refine .inr ⟨entries, rfl, .inl ⟨_, ?_, fun j hj => ?_, rfl⟩⟩
    · exact not_not.mp (mt names_labels_iff.mpr hk)
    · exact names_labels_iff.mp (hfirst j hj)
  | classes _ hgiven _ hlabels hclasses =>
    cases hgiven
    obtain ⟨classes, hread⟩ := readLabels_of_forall fun k =>
      names_labels_iff.mp (hlabels _ rfl k)
    exact .inr ⟨entries, rfl, .inr ⟨classes, hread, if_pos hclasses⟩⟩

theorem Refused.resolve_distributions {given : Tensor S}
    (hrefused : (distributions given).Refused [n, d] e) :
    (distributions given).resolve [n, d] = .error e := by
  rw [CrossEntropy.resolve_distributions]
  simp only [bind_eq_error_iff, expectShape_eq_error_iff, expectShape_eq_ok_iff]
  obtain ⟨_, entries⟩ := given
  cases hrefused with
  | rank hrank => exact absurd rfl hrank
  | given _ hgiven => exact .inl ⟨hgiven, rfl⟩
  | weights _ _ hw => cases hw
  | label _ _ _ hmem => cases hmem
  | classes _ hgiven _ _ hclasses =>
    cases hgiven
    exact .inr ⟨entries, rfl, if_pos hclasses⟩

theorem Refused.resolve_pixels {given : Tensor Int32} {weights : Option (Tensor S)}
    (hrefused : (pixels given weights).Refused [n, d, h, w] e) :
    (pixels given weights).resolve [n, d, h, w] = .error e := by
  rw [CrossEntropy.resolve_pixels]
  simp only [bind_eq_error_iff, expectShape_eq_error_iff, expectShape_eq_ok_iff,
    readLabels_eq_error_iff]
  obtain ⟨_, entries⟩ := given
  cases hrefused with
  | rank hrank => exact absurd rfl hrank
  | given _ hgiven => exact .inl ⟨hgiven, rfl⟩
  | weights _ hgiven hw hshape =>
    cases hgiven
    cases hw
    refine .inr ⟨entries, rfl, .inl ?_⟩
    exact bind_eq_error_iff.mpr (.inl (expectShape_eq_error_iff.mpr ⟨hshape, rfl⟩))
  | label _ hgiven hweights hmem hk hfirst =>
    cases hmem
    cases hgiven
    obtain ⟨ws, hws⟩ := expectWeights_ok_iff.mpr hweights
    refine .inr ⟨entries, rfl, .inr ⟨ws, hws, .inl ⟨_, ?_, fun j hj => ?_, rfl⟩⟩⟩
    · exact not_not.mp (mt names_pixels_iff.mpr hk)
    · exact names_pixels_iff.mp (hfirst j hj)
  | classes _ hgiven hweights hlabels hclasses =>
    cases hgiven
    obtain ⟨ws, hws⟩ := expectWeights_ok_iff.mpr hweights
    obtain ⟨marks, hread⟩ := readLabels_of_forall fun k =>
      names_pixels_iff.mp (hlabels _ rfl k)
    exact .inr ⟨entries, rfl, .inr ⟨ws, hws, .inr ⟨marks, hread, if_pos hclasses⟩⟩⟩

/-- What is refused is not resolved, and for this reason. -/
theorem Refused.resolve_eq {shape : Shape} (hrefused : targets.Refused shape e) :
    targets.resolve shape = .error e := by
  by_cases hrank : shape.length = targets.rank
  · cases targets with
    | labels given =>
      obtain ⟨n, d, rfl⟩ := List.length_eq_two.mp hrank
      exact hrefused.resolve_labels
    | distributions given =>
      obtain ⟨n, d, rfl⟩ := List.length_eq_two.mp hrank
      exact hrefused.resolve_distributions
    | pixels given weights =>
      obtain ⟨n, d, h, w, rfl⟩ := List.length_eq_four.mp hrank
      exact hrefused.resolve_pixels
  · cases hrefused with
    | rank => exact resolve_of_rank hrank
    | given h | weights h | label h | classes h => exact absurd h hrank

theorem Suits.exists_fits {shape : Shape} (hsuits : targets.Suits shape) :
    ∃ f, Fits targets shape f := by
  have hclasses : shape.classes ≠ 0 := Nat.one_le_iff_ne_zero.mp hsuits.classes
  cases targets with
  | labels given =>
    obtain ⟨n, d, rfl⟩ := List.length_eq_two.mp hsuits.rank
    obtain ⟨_, entries⟩ := given
    cases hsuits.given
    obtain ⟨classes, hread⟩ := readLabels_of_forall fun k =>
      names_labels_iff.mp (hsuits.labels _ rfl k)
    exact ⟨_, .labels hclasses hread⟩
  | distributions given =>
    obtain ⟨n, d, rfl⟩ := List.length_eq_two.mp hsuits.rank
    obtain ⟨_, entries⟩ := given
    cases hsuits.given
    exact ⟨_, .distributions hclasses⟩
  | pixels given weights =>
    obtain ⟨n, d, h, w, rfl⟩ := List.length_eq_four.mp hsuits.rank
    obtain ⟨_, entries⟩ := given
    cases hsuits.given
    obtain ⟨ws, hws⟩ := expectWeights_ok_iff.mpr hsuits.weights
    obtain rfl := expectWeights_eq_ok_iff.mp hws
    obtain ⟨marks, hread⟩ := readLabels_of_forall fun k =>
      names_pixels_iff.mp (hsuits.labels _ rfl k)
    exact ⟨_, .pixels hclasses hread⟩

variable (targets) (shape : Shape)

theorem resolve_eq_error_iff : targets.resolve shape = .error e ↔ targets.Refused shape e := by
  refine ⟨fun h => ?_, Refused.resolve_eq⟩
  obtain hsuits | ⟨e', hrefused⟩ := targets.suits_or_refused shape
  · obtain ⟨f, hf⟩ := hsuits.exists_fits
    cases h.symm.trans (resolve_eq_ok_iff.mpr hf)
  · cases h.symm.trans hrefused.resolve_eq
    exact hrefused

theorem exists_fits_iff : (∃ f, Fits targets shape f) ↔ targets.Suits shape := by
  refine ⟨fun ⟨f, hf⟩ => ?_, Suits.exists_fits⟩
  obtain hsuits | ⟨e, hrefused⟩ := targets.suits_or_refused shape
  · exact hsuits
  · cases hrefused.resolve_eq.symm.trans (resolve_eq_ok_iff.mpr hf)

end Targets

/-! ## Both passes -/

section OutGradient

variable {α : Type} {x : Tensor α} {e : ShapeError}

theorem exists_expectShape_iff {input : String} {expected : Shape} :
    (∃ entries, x.expectShape input expected = .ok entries) ↔ x.shape = expected := by
  unfold Tensor.expectShape
  split <;> simp [*]

theorem onlyEntry_eq_error_iff :
    onlyEntry x = .error e ↔
      Shape.size x.shape ≠ 1 ∧ .mismatch "out_gradient" [] x.shape = e := by
  unfold onlyEntry
  split <;> simp [*]

theorem exists_onlyEntry_iff : (∃ a, onlyEntry x = .ok a) ↔ Shape.size x.shape = 1 := by
  unfold onlyEntry
  split <;> simp [*]

end OutGradient

section Passes

variable {S D : Type} [Scalar S] [Scalar D] [Precision S D] (targets : Targets S)
  (scores : Tensor S)

theorem evaluate_eq_error_iff {e : ShapeError} :
    targets.evaluate scores = .error e ↔ targets.Refused scores.shape e :=
  (FailAlike.map_left _ (targets.resolve scores.shape) e).trans
    (targets.resolve_eq_error_iff scores.shape)

theorem forward_eq_error_iff {e : ShapeError} :
    (softmaxWithLoss targets).forward scores = .error e ↔ targets.Refused scores.shape e :=
  (FailAlike.map_left _ (targets.evaluate scores) e).trans (evaluate_eq_error_iff targets scores)

theorem exists_forward_iff :
    (∃ outputs, (softmaxWithLoss targets).forward scores = .ok outputs) ↔
      targets.Suits scores.shape := by
  rw [← targets.exists_fits_iff scores.shape]
  constructor
  · rintro ⟨outputs, h⟩
    obtain ⟨f, hf, -⟩ := forward_eq_ok_iff.mp h
    exact ⟨f, hf⟩
  · rintro ⟨f, hf⟩
    exact ⟨_, forward_eq_ok_iff.mpr ⟨f, hf, rfl⟩⟩

theorem bind_evaluate_eq_error_iff {α β : Type} {x : Except ShapeError α}
    {f : α → Evaluation S scores.shape → β} {e : ShapeError} :
    (x >>= fun a => targets.evaluate scores >>= fun evaluation => .ok (f a evaluation)) =
        .error e ↔
      x = .error e ∨ (∃ a, x = .ok a) ∧ targets.Refused scores.shape e := by
  rw [bind_eq_error_iff]
  refine or_congr_right ?_
  rw [← evaluate_eq_error_iff targets scores, exists_and_right.symm]
  exact exists_congr fun a => and_congr_right fun _ => FailAlike.map_left _ _ e

theorem probabilitiesBackward_eq_error_iff {outGradient : Tensor S} {e : ShapeError} :
    probabilitiesBackward targets outGradient scores = .error e ↔
      targets.BackwardRefused scores.shape outGradient.shape 0 e := by
  refine (bind_evaluate_eq_error_iff targets scores).trans ?_
  rw [expectShape_eq_error_iff, exists_expectShape_iff]
  constructor
  · rintro (⟨hout, rfl⟩ | ⟨hout, hrefused⟩)
    · exact .probabilities hout
    · exact .probabilities_scores hout hrefused
  · intro hrefused
    cases hrefused with
    | noSuchOutput h => omega
    | probabilities hout => exact .inl ⟨hout, rfl⟩
    | probabilities_scores hout h => exact .inr ⟨hout, h⟩

theorem lossBackward_eq_error_iff {outGradient : Tensor S} {e : ShapeError} :
    lossBackward targets outGradient scores = .error e ↔
      targets.BackwardRefused scores.shape outGradient.shape 1 e := by
  refine (bind_evaluate_eq_error_iff targets scores).trans ?_
  rw [onlyEntry_eq_error_iff, exists_onlyEntry_iff]
  constructor
  · rintro (⟨hout, rfl⟩ | ⟨hout, hrefused⟩)
    · exact .loss hout
    · exact .loss_scores hout hrefused
  · intro hrefused
    cases hrefused with
    | noSuchOutput h => omega
    | loss hout => exact .inl ⟨hout, rfl⟩
    | loss_scores hout h => exact .inr ⟨hout, h⟩

theorem backward_eq_error_iff {outGradient : Tensor S} {output : Nat} {e : ShapeError} :
    (softmaxWithLoss targets).backward outGradient scores output = .error e ↔
      targets.BackwardRefused scores.shape outGradient.shape output e := by
  obtain rfl | rfl | houtput : output = 0 ∨ output = 1 ∨ 1 < output := by omega
  · exact probabilitiesBackward_eq_error_iff targets scores
  · exact lossBackward_eq_error_iff targets scores
  · obtain ⟨output, rfl⟩ := Nat.exists_eq_add_of_le' houtput
    constructor
    · intro h
      cases h
      exact .noSuchOutput houtput
    · intro hrefused
      cases hrefused
      rfl

theorem exists_backward_iff {outGradient : Tensor S} {output : Nat} :
    (∃ g, (softmaxWithLoss targets).backward outGradient scores output =
        .ok ⟨scores.shape, g⟩) ↔
      ∀ e, ¬ targets.BackwardRefused scores.shape outGradient.shape output e := by
  simp only [← backward_eq_error_iff targets scores]
  constructor
  · rintro ⟨g, hg⟩ e he
    cases hg.symm.trans he
  · intro hnone
    cases hbackward : (softmaxWithLoss targets).backward outGradient scores output with
    | error e => exact absurd hbackward (hnone e)
    | ok gradient =>
      obtain hsuits | ⟨e, hrefused⟩ := targets.suits_or_refused scores.shape
      · obtain ⟨f, hf⟩ := hsuits.exists_fits
        obtain ⟨-, g, -, rfl⟩ | ⟨-, g, -, rfl⟩ :=
          (softmaxWithLoss_backward_eq_ok_iff hf).mp hbackward
        · exact ⟨_, rfl⟩
        · exact ⟨_, rfl⟩
      · obtain ⟨e', hrefused'⟩ := hrefused.exists_backwardRefused outGradient.shape output
        cases hbackward.symm.trans ((backward_eq_error_iff targets scores).mpr hrefused')

/-- **The outcome of both passes.** Scores are accepted exactly if they suit the targets, and
otherwise refused for the first thing that is wrong. The backward pass is refused for the number of
the output, then for the shape of the out-gradient, then as the forward pass is; else there is a
gradient of the shape of the scores. -/
theorem softmaxWithLoss_accepts_iff :
    ((∃ outputs, (softmaxWithLoss targets).forward scores = .ok outputs) ↔
        targets.Suits scores.shape) ∧
      (∀ e, (softmaxWithLoss targets).forward scores = .error e ↔
        targets.Refused scores.shape e) ∧
      ∀ (outGradient : Tensor S) (output : Nat),
        (∀ e, (softmaxWithLoss targets).backward outGradient scores output = .error e ↔
          targets.BackwardRefused scores.shape outGradient.shape output e) ∧
        ((∃ g, (softmaxWithLoss targets).backward outGradient scores output =
            .ok ⟨scores.shape, g⟩) ↔
          ∀ e, ¬ targets.BackwardRefused scores.shape outGradient.shape output e) :=
  ⟨exists_forward_iff targets scores, fun _ => forward_eq_error_iff targets scores,
    fun _ _ =>
      ⟨fun _ => backward_eq_error_iff targets scores, exists_backward_iff targets scores⟩⟩

end Passes

end CrossEntropy
