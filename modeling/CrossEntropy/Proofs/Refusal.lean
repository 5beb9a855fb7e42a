import CrossEntropy.Proofs.Labels
import CrossEntropy.Proofs.LossReference

/-!
# Refused inputs

The loss operation and its references test their inputs in code of their own and in an order of
their own. Both refuse the same inputs for the same reason, except that the references do not always
notice that there is no class, or notice it earlier.

* `failAlike_labels`, `failAlike_distributions`, `failAlike_pixels`: one kind of targets each;
* `Targets.Overlooked`: the inputs on which the two differ;
* **`forward_failAlike_reference_iff`**: they fail alike on all others.
-/

namespace CrossEntropy

variable {S A : Type} [Scalar A] (f : S → A)

/-- The same targets with numbers of another precision. -/
def Targets.map : Targets S → Targets A
  | labels given => labels given
  | distributions given => distributions (given.map f)
  | pixels given weights => pixels given (weights.map (·.map f))

theorem failAlike_expectWeights (weights : Option (Tensor S)) (n h w : Nat) :
    FailAlike (expectWeights [n, h, w] weights)
      (Reference.expectPixelWeights n h w (weights.map (·.map f))) := by
  cases weights with
  | none => exact .ok_ok _ _
  | some weights =>
    have hentries := FailAlike.expectShape (weights.shape_map f).symm "weights" [n, h, w]
    exact hentries.bind_iff.mpr fun _ _ _ _ => .ok_ok _ _

variable [Scalar S]

theorem expectWeights_ok_iff {shape : Shape} {given : Option (Tensor S)} :
    (∃ weights, expectWeights shape given = .ok weights) ↔ ∀ w ∈ given, w.shape = shape := by
  simp only [expectWeights_eq_ok_iff]
  constructor
  · rintro ⟨weights, rfl⟩ w hw
    obtain ⟨entries, -, rfl⟩ := Option.map_eq_some_iff.mp hw
    rfl
  · intro h
    cases given with
    | none => exact ⟨none, rfl⟩
    | some w =>
      obtain ⟨_, entries⟩ := w
      cases h _ rfl
      exact ⟨some entries, rfl⟩

/-! ## Kinds of targets -/

theorem failAlike_labels (given : Tensor Int32) {n d : Nat} (x : Vector A (Shape.size [n, d])) :
    FailAlike ((Targets.labels given : Targets S).resolve [n, d])
      (Reference.softmaxCrossEntropy ⟨[n, d], x⟩ given) ↔
      ¬ (d = 0 ∧ n = 0 ∧ given.shape = [n]) := by
  rw [resolve_labels]
  unfold Reference.softmaxCrossEntropy
  simp only [FailAlike.bind_self_iff, expectShape_eq_ok_iff]
  constructor
  · rintro h ⟨rfl, rfl, hshape⟩
    obtain ⟨_, entries⟩ := given
    subst hshape
    obtain ⟨classes, hread, -⟩ | ⟨k, -⟩ := readLabels_cases 0 (classOf? 0) ⟨[0], entries⟩
    · exact FailAlike.ite_error_ok_iff.mp (h entries rfl classes hread) rfl
    · exact absurd k.isLt (by simp)
  · rintro h entries rfl classes hread
    refine FailAlike.ite_error_ok_iff.mpr fun hd => h ⟨hd, ?_, rfl⟩
    subst hd
    by_contra hn
    have hsize : 0 < Shape.size [n] := by simpa using Nat.pos_of_ne_zero hn
    exact (classes.get ⟨0, hsize⟩).elim0

theorem failAlike_distributions (given : Tensor S) {n d : Nat}
    (x : Vector A (Shape.size [n, d])) :
    FailAlike ((Targets.distributions given).resolve [n, d])
      (Reference.softLabelCrossEntropy ⟨[n, d], x⟩ (given.map f)) ↔
      ¬ (d = 0 ∧ given.shape = [n, d]) := by
  rw [resolve_distributions]
  unfold Reference.softLabelCrossEntropy
  have hentries := FailAlike.expectShape (given.shape_map f).symm "targets" [n, d]
  simp only [hentries.bind_iff, expectShape_eq_ok_iff]
  constructor
  · rintro h ⟨hd, hshape⟩
    obtain ⟨_, entries⟩ := given
    subst hshape
    exact FailAlike.ite_error_ok_iff.mp (h entries _ rfl rfl) hd
  · rintro h entries entries' rfl -
    exact FailAlike.ite_error_ok_iff.mpr fun hd => h ⟨hd, rfl⟩

/-- It makes a difference which test comes first only if both would fail: without a class, and with
a label that would have to be one. -/
theorem failAlike_marks {β γ : Type} {d : Nat} {labels : Tensor Int32} {shape : Shape}
    {f : Vector (Option (Fin d)) labels.size → β} {g : Vector (Option (Fin d)) labels.size → γ} :
    FailAlike
      (readLabels d (markOf? d) labels >>= fun marks =>
        if d = 0 then .error (.noClasses shape) else .ok (f marks))
      (if d = 0 then .error (.noClasses shape)
        else readLabels d (markOf? d) labels >>= fun marks => .ok (g marks)) ↔
      ¬ (d = 0 ∧ ∃ k, labels.entries.get k ≠ ignoredLabel) := by
  by_cases hd : d = 0
  · subst hd
    -- a label that is reported is reported by the first of the two alone
    obtain ⟨marks, hread, hmarks⟩ | ⟨k, hk, hread⟩ := readLabels_cases 0 (markOf? 0) labels
    · rw [hread]
      refine iff_of_true (FailAlike.error_error_iff.mpr rfl) ?_
      rintro ⟨-, k, hk⟩
      cases hm : marks.get k with
      | none => exact hk (markOf?_eq_some_none_iff.mp ((hmarks k).trans (congrArg some hm)))
      | some c => exact c.elim0
    · rw [hread]
      refine iff_of_false ?_ (not_not_intro ⟨rfl, k, fun h => ?_⟩)
      · exact fun h => nomatch FailAlike.error_error_iff.mp h
      · rw [markOf?_eq_some_none_iff.mpr h] at hk
        cases hk
  · simp only [if_neg hd]
    exact iff_of_true (FailAlike.bind_self_iff.mpr fun _ _ => .ok_ok _ _) fun h => hd h.1

theorem failAlike_pixels (given : Tensor Int32) (weights : Option (Tensor S)) {n d h w : Nat}
    (x : Vector A (Shape.size [n, d, h, w])) :
    FailAlike ((Targets.pixels given weights).resolve [n, d, h, w])
      (Reference.spatialSoftmaxCrossEntropy ⟨[n, d, h, w], x⟩ given (weights.map (·.map f))) ↔
      ¬ (d = 0 ∧ given.shape = [n, h, w] ∧ (∀ v ∈ weights, v.shape = [n, h, w]) ∧
        ∃ k, given.entries.get k ≠ ignoredLabel) := by
  rw [resolve_pixels]
  unfold Reference.spatialSoftmaxCrossEntropy
  have hweights := failAlike_expectWeights f weights n h w
  simp only [FailAlike.bind_self_iff, hweights.bind_iff, expectShape_eq_ok_iff]
  constructor
  · rintro hall ⟨hd, hshape, hfit, hlabel⟩
    obtain ⟨_, entries⟩ := given
    subst hshape
    obtain ⟨a, ha⟩ := expectWeights_ok_iff.mpr hfit
    obtain ⟨b, hb⟩ := hweights.exists_ok ha
    exact failAlike_marks.mp (hall entries rfl a b ha hb) ⟨hd, hlabel⟩
  · rintro hnot entries rfl a b ha -
    refine failAlike_marks.mpr fun ⟨hd, hlabel⟩ => hnot ⟨hd, rfl, ?_, hlabel⟩
    exact expectWeights_ok_iff.mp ⟨a, ha⟩

/-! ## All targets -/

/-- The inputs without a class on which the two differ: the reference for labels accepts them if
there is no row, the one for distributions always does, and the one for pixels misses the classes
before it comes to a label that is not one of them. -/
def Targets.Overlooked : Targets S → Shape → Prop
  | labels given, [n, d] => d = 0 ∧ n = 0 ∧ given.shape = [n]
  | distributions given, [n, d] => d = 0 ∧ given.shape = [n, d]
  | pixels given weights, [n, d, h, w] =>
    d = 0 ∧ given.shape = [n, h, w] ∧ (∀ v ∈ weights, v.shape = [n, h, w]) ∧
      ∃ k, given.entries.get k ≠ ignoredLabel
  | _, _ => False

variable {D : Type} [Scalar D] [Precision S D] (targets : Targets S) (scores : Tensor S)

theorem failAlike_forward :
    FailAlike ((softmaxWithLoss targets).forward scores) (targets.resolve scores.shape) :=
  (FailAlike.map_left _ (targets.evaluate scores)).congr_left.mpr (FailAlike.map_left _ _)

/-- **The loss operation and its reference refuse the same inputs for the same reason**, exactly
where no lack of classes is overlooked. -/
theorem forward_failAlike_reference_iff :
    FailAlike ((softmaxWithLoss targets).forward scores)
      ((targets.map f).reference (scores.map f)) ↔ ¬ targets.Overlooked scores.shape := by
  rw [(failAlike_forward targets scores).congr_left]
  obtain ⟨shape, x⟩ := scores
  have hrank {rank : Nat} :
      FailAlike (.error (.wrongRank rank shape) : Except ShapeError (Fitted S shape))
        (.error (.wrongRank rank shape) : Except ShapeError (Tensor A × A)) ↔ ¬ False :=
    iff_of_true (FailAlike.error_error_iff.mpr rfl) id
  match targets, shape with
  | .labels given, [n, d] => exact failAlike_labels given _
  | .distributions given, [n, d] => exact failAlike_distributions f given _
  | .pixels given weights, [n, d, h, w] => exact failAlike_pixels f given weights _
  | .labels _, [] | .labels _, [_] | .labels _, _ :: _ :: _ :: _
  | .distributions _, [] | .distributions _, [_] | .distributions _, _ :: _ :: _ :: _
  | .pixels .., [] | .pixels .., [_] | .pixels .., [_, _] | .pixels .., [_, _, _]
  | .pixels .., _ :: _ :: _ :: _ :: _ :: _ => exact hrank

/-- One row without classes: the operation refuses it, the reference averages over it. -/
theorem not_failAlike_withoutClasses :
    ¬ FailAlike
      ((softmaxWithLoss (.distributions ⟨[1, 0], #v[]⟩)).forward (⟨[1, 0], #v[]⟩ : Tensor Float32))
      (Reference.softLabelCrossEntropy (⟨[1, 0], #v[]⟩ : Tensor Float) ⟨[1, 0], #v[]⟩) :=
  fun h => nomatch (h (.noClasses [1, 0])).mp rfl

end CrossEntropy
