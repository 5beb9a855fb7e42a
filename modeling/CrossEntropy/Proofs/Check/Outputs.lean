import CrossEntropy.Proofs.Fold
import CrossEntropy.Proofs.Index
import CrossEntropy.Proofs.Outcome
import CrossEntropy.Check

/-!
# Checks of an operation

What it means that an operation passes the comparison with its references, and the one of its
gradient with centred differences: nothing is left out.

* `Tensor.AgreesAt`, `Tensor.Agrees`, `OutputsAgree`: outputs close to references, entry by entry;
* `AgreeWhereCompared`: every output agrees that has a threshold;
* **`checkReference_eq_ok_iff`**: the comparison with references passes exactly if all agree;
* `GradientAgrees`: a gradient close to the centred differences, coordinate by coordinate;
* **`checkGradients_eq_ok_iff`**: the check of gradients passes exactly if it agrees.
-/

namespace CrossEntropy

open Precision

variable {S D : Type} [Scalar D] [Precision S D]

/-! ## Outputs -/

/-- The shape of the reference, and every entry close to the reference's at the same index. -/
structure Tensor.Agrees (output : Tensor S) (reference : Tensor D) (threshold : D) : Prop where
  shape : output.shape = reference.shape
  entries : ∀ index, output.shape.Contains index → ∃ a e, output.at? index = some a ∧
    reference.at? index = some e ∧ close (widen a) e threshold = true

/-- The entries of an output and of its reference at an index are close. -/
def Tensor.AgreesAt (output : Tensor S) (reference : Tensor D) (threshold : D)
    (index : List Nat) : Prop :=
  ∃ a e, output.at? index = some a ∧ reference.at? index = some e ∧
    close (widen a) e threshold = true

theorem agreesAt_index_iff {output : Tensor S} {expected : Vector D output.size} {threshold : D}
    (k : Fin output.size) :
    output.AgreesAt ⟨output.shape, expected⟩ threshold (output.index k) ↔
      close (widen (output.entries.get k)) (expected.get k) threshold = true := by
  have ha := output.at?_index k
  have he := Tensor.at?_index ⟨output.shape, expected⟩ k
  constructor
  · rintro ⟨a, e, ha', he', hclose⟩
    cases ha.symm.trans ha'
    cases he.symm.trans he'
    exact hclose
  · exact fun hclose => ⟨_, _, ha, he, hclose⟩

theorem agrees_iff {output : Tensor S} {expected : Vector D output.size} {threshold : D} :
    output.Agrees ⟨output.shape, expected⟩ threshold ↔
      ∀ k, close (widen (output.entries.get k)) (expected.get k) threshold = true := by
  constructor
  · intro h k
    exact (agreesAt_index_iff k).mp (h.entries _ (Shape.contains_unravel k.isLt))
  · intro h
    exact ⟨rfl, Shape.forall_contains_iff.mpr fun k => (agreesAt_index_iff k).mpr (h k)⟩

theorem checkOutput_cases (number : Nat) (output : Tensor S) (expected : Vector D output.size)
    (threshold : D) :
    checkOutput number output ⟨output.shape, expected⟩ threshold = .ok () ∧
      (∀ k, close (widen (output.entries.get k)) (expected.get k) threshold = true) ∨
    ∃ k, checkOutput number output ⟨output.shape, expected⟩ threshold =
        .error (.referenceMismatch number (output.index k) (widen (output.entries.get k))
          (expected.get k)) ∧
      close (widen (output.entries.get k)) (expected.get k) threshold = false ∧
      ∀ j < k, close (widen (output.entries.get j)) (expected.get j) threshold = true := by
  have hsame : (⟨output.shape, expected⟩ : Tensor D).reshape rfl = expected := rfl
  rw [checkOutput, dif_pos rfl, hsame]
  dsimp only
  split
  next hall =>
    refine .inl ⟨rfl, fun k => ?_⟩
    have hk := Vector.findFinIdx?_eq_none_iff.mp hall _ (Vector.getElem_mem k.isLt)
    rw [Vector.getElem_zipWith, Bool.not_eq_true', Bool.not_eq_false] at hk
    exact hk
  next k hk =>
    obtain ⟨hfar, hbefore⟩ := findFinIdx?_eq_some_iff.mp hk
    simp only [get_zipWith, Bool.not_eq_true', Bool.not_eq_false] at hfar hbefore
    exact .inr ⟨k, rfl, hfar, hbefore⟩

theorem checkOutput_eq_ok_iff {number : Nat} {output : Tensor S} {reference : Tensor D}
    {threshold : D} :
    checkOutput number output reference threshold = .ok () ↔ output.Agrees reference threshold := by
  by_cases hshape : reference.shape = output.shape
  · obtain ⟨_, expected⟩ := reference
    subst hshape
    rw [agrees_iff]
    obtain ⟨hok, hall⟩ | ⟨k, herror, hfar, -⟩ := checkOutput_cases number output expected threshold
    · exact iff_of_true hok hall
    · rw [herror]
      refine iff_of_false (by rintro ⟨⟩) fun hall => ?_
      exact Bool.false_ne_true (hfar.symm.trans (hall k))
  · refine iff_of_false ?_ fun h => hshape h.shape.symm
    rw [checkOutput, dif_neg hshape]
    rintro ⟨⟩

/-- As many outputs as references, each within the threshold of its number. -/
structure OutputsAgree (outputs : List (Tensor S)) (references : List (Tensor D))
    (thresholds : List D) : Prop where
  length : outputs.length = references.length
  agrees : ∀ (k : Nat) (output : Tensor S), outputs[k]? = some output → ∃ reference threshold,
    references[k]? = some reference ∧ thresholds[k]? = some threshold ∧
      output.Agrees reference threshold

section Comparison

variable {operation : Operation S} {scores : Tensor S} {outputs : List (Tensor S)}
  {references : List (Tensor D)} {thresholds : List D}

/-- Every output agrees with the reference of its number, as far as there are thresholds. -/
def AgreeWhereCompared (outputs : List (Tensor S)) (references : List (Tensor D))
    (thresholds : List D) : Prop :=
  ∀ (k : Nat) (output : Tensor S) (reference : Tensor D) (threshold : D),
    outputs[k]? = some output → references[k]? = some reference →
      thresholds[k]? = some threshold → output.Agrees reference threshold

omit [Scalar D] [Precision S D] in
theorem getElem?_compared {k number : Nat} {output : Tensor S} {reference : Tensor D}
    {threshold : D} :
    ((outputs.zip references).zip thresholds).zipIdx[k]? =
        some (((output, reference), threshold), number) ↔
      outputs[k]? = some output ∧ references[k]? = some reference ∧
        thresholds[k]? = some threshold ∧ k = number := by
  rw [List.getElem?_zipIdx, Option.map_eq_some_iff]
  constructor
  · rintro ⟨⟨⟨o, r⟩, t⟩, hk, h⟩
    cases h
    rw [List.getElem?_zip_eq_some, List.getElem?_zip_eq_some] at hk
    exact ⟨hk.1.1, hk.1.2, hk.2, (Nat.zero_add k).symm⟩
  · rintro ⟨houtput, hreference, hthreshold, rfl⟩
    refine ⟨((output, reference), threshold), ?_, by rw [Nat.zero_add]⟩
    rw [List.getElem?_zip_eq_some, List.getElem?_zip_eq_some]
    exact ⟨⟨houtput, hreference⟩, hthreshold⟩

theorem forM_checkOutput_eq_ok_iff :
    (((outputs.zip references).zip thresholds).zipIdx.forM
      fun (((output, reference), threshold), k) => checkOutput k output reference threshold) =
      .ok () ↔ AgreeWhereCompared outputs references thresholds := by
  rw [forM_eq_ok_iff]
  constructor
  · intro h k output reference threshold houtput hreference hthreshold
    refine checkOutput_eq_ok_iff.mp (h (((output, reference), threshold), k) ?_)
    exact List.mem_of_getElem? (getElem?_compared.mpr ⟨houtput, hreference, hthreshold, rfl⟩)
  · rintro h ⟨⟨⟨output, reference⟩, threshold⟩, number⟩ hmem
    obtain ⟨k, hk⟩ := List.mem_iff_getElem?.mp hmem
    obtain ⟨houtput, hreference, hthreshold, rfl⟩ := getElem?_compared.mp hk
    exact checkOutput_eq_ok_iff.mpr (h k output reference threshold houtput hreference hthreshold)

theorem outputsAgree_iff :
    OutputsAgree outputs references thresholds ↔ outputs.length = references.length ∧
      outputs.length ≤ thresholds.length ∧ AgreeWhereCompared outputs references thresholds := by
  constructor
  · intro h
    refine ⟨h.length, ?_, fun k output reference threshold houtput hreference hthreshold => ?_⟩
    · by_contra hshort
      have hlt : thresholds.length < outputs.length := Nat.lt_of_not_le hshort
      obtain ⟨_, threshold, -, hthreshold, -⟩ :=
        h.agrees thresholds.length _ (List.getElem?_eq_getElem hlt)
      rw [List.getElem?_length] at hthreshold
      cases hthreshold
    · obtain ⟨r, t, hr, ht, hagrees⟩ := h.agrees k output houtput
      cases hr.symm.trans hreference
      cases ht.symm.trans hthreshold
      exact hagrees
  · rintro ⟨hlength, hthresholds, h⟩
    refine ⟨hlength, fun k output houtput => ?_⟩
    have hk : k < outputs.length := (List.getElem?_eq_some_iff.mp houtput).1
    have hreference : references[k]? = some references[k] := List.getElem?_eq_getElem (by omega)
    have hthreshold : thresholds[k]? = some thresholds[k] := List.getElem?_eq_getElem (by omega)
    exact ⟨_, _, hreference, hthreshold, h k _ _ _ houtput hreference hthreshold⟩

theorem checkReference_eq_ok_iff_compared :
    checkReference operation scores references thresholds = .ok () ↔
      ∃ outputs, operation.forward scores = .ok outputs ∧ outputs.length = references.length ∧
        AgreeWhereCompared outputs references thresholds := by
  unfold checkReference
  rw [bind_eq_ok_iff]
  refine exists_congr fun outputs => and_congr refuse_eq_ok_iff ?_
  by_cases hlength : outputs.length = references.length
  · rw [if_neg (not_not_intro hlength)]
    exact forM_checkOutput_eq_ok_iff.trans (and_iff_right hlength).symm
  · rw [if_pos hlength]
    exact iff_of_false (fun h => nomatch h) fun h => hlength h.1

/-- **The comparison with references passes exactly if all outputs agree**, provided there is a
threshold for each. -/
theorem checkReference_eq_ok_iff (hthresholds : references.length ≤ thresholds.length) :
    checkReference operation scores references thresholds = .ok () ↔
      ∃ outputs, operation.forward scores = .ok outputs ∧
        OutputsAgree outputs references thresholds := by
  rw [checkReference_eq_ok_iff_compared]
  refine exists_congr fun outputs => and_congr_right fun _ => ?_
  rw [outputsAgree_iff]
  refine and_congr_right fun hlength => (and_iff_right ?_).symm
  rwa [hlength]

end Comparison

/-! ## Gradients -/

theorem outputOf_eq_ok_iff {number : Nat} {outputs : List (Tensor S)} {y : Tensor S} :
    outputOf number outputs = .ok y ↔ outputs[number]? = some y := by
  unfold outputOf
  cases outputs[number]? with
  | none => exact ⟨fun h => (nomatch h), fun h => (nomatch h)⟩
  | some x => rw [Except.ok.injEq, Option.some_inj]

variable [Scalar S] {operation : Operation S} {scores : Tensor S} {number : Nat}
  {tolerances : Tolerances S D}

/-- The shape of the scores, and at every coordinate an entry close to the centred difference. -/
structure GradientAgrees (operation : Operation S) (scores : Tensor S) (number : Nat)
    (tolerances : Tolerances S D) (gradient : Tensor S) : Prop where
  shape : gradient.shape = scores.shape
  entries : ∀ k, ∃ a numeric, gradient.at? (scores.index k) = some a ∧
    centredDifference operation scores number tolerances.stepsize k = .ok numeric ∧
      close (widen a) numeric tolerances.gradient = true

theorem checkCoordinate_eq_ok_iff {gradient : Vector S scores.size} {k : Fin scores.size} :
    checkCoordinate operation scores number tolerances gradient k = .ok () ↔
      ∃ numeric, centredDifference operation scores number tolerances.stepsize k = .ok numeric ∧
        close (widen (gradient.get k)) numeric tolerances.gradient = true := by
  unfold checkCoordinate
  rw [bind_eq_ok_iff]
  refine exists_congr fun numeric => and_congr refuse_eq_ok_iff ?_
  dsimp only
  split
  next h => exact iff_of_true rfl h
  next h => exact iff_of_false (fun h => nomatch h) h

theorem gradientAgrees_iff {entries : Vector S scores.size} :
    GradientAgrees operation scores number tolerances ⟨scores.shape, entries⟩ ↔
      ∀ k, checkCoordinate operation scores number tolerances entries k = .ok () := by
  have hat (k : Fin scores.size) := Tensor.at?_index ⟨scores.shape, entries⟩ k
  constructor
  · intro h k
    obtain ⟨a, numeric, ha, hnumeric, hclose⟩ := h.entries k
    cases (hat k).symm.trans ha
    exact checkCoordinate_eq_ok_iff.mpr ⟨numeric, hnumeric, hclose⟩
  · intro h
    refine ⟨rfl, fun k => ?_⟩
    obtain ⟨numeric, hnumeric, hclose⟩ := checkCoordinate_eq_ok_iff.mp (h k)
    exact ⟨_, numeric, hat k, hnumeric, hclose⟩

/-- **The check of gradients passes exactly if the gradient agrees at every coordinate.** -/
theorem checkGradients_eq_ok_iff :
    checkGradients operation scores number tolerances = .ok () ↔
      ∃ outputs y gradient, operation.forward scores = .ok outputs ∧ outputs[number]? = some y ∧
        operation.backward y scores number = .ok gradient ∧
          GradientAgrees operation scores number tolerances gradient := by
  unfold checkGradients
  simp only [bind_eq_ok_iff, refuse_eq_ok_iff, outputOf_eq_ok_iff, expectShape_eq_ok_iff,
    forM_eq_ok_iff, List.mem_finRange, forall_const]
  constructor
  · rintro ⟨y, ⟨outputs, hforward, hy⟩, _, hbackward, entries, rfl, hall⟩
    exact ⟨outputs, y, _, hforward, hy, hbackward, gradientAgrees_iff.mpr hall⟩
  · rintro ⟨outputs, y, ⟨shape, entries⟩, hforward, hy, hbackward, hagrees⟩
    obtain rfl : shape = scores.shape := hagrees.shape
    exact ⟨y, ⟨outputs, hforward, hy⟩, _, hbackward, entries, rfl, gradientAgrees_iff.mp hagrees⟩

end CrossEntropy
