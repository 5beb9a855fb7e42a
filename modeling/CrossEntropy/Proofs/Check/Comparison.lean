import CrossEntropy.Proofs.Check.Outputs
import CrossEntropy.Softmax

/-!
# Comparisons with references

What a comparison of outputs with references says, whatever the lengths of the lists it is given.
Outputs are compared in order as long as there are thresholds, and in row-major order of their
entries, up to the first disagreement.

* **`checkReference_covers`**: what a comparison covers that passes;
* `Tensor.FirstDifference`: the first way in which an output differs from its reference;
* `FirstDisagreement`: the first output that differs, if they are as many as the references;
* **`checkReference_eq_error_iff`**: a comparison fails with the first disagreement.
-/

namespace CrossEntropy

open Precision

variable {S D : Type} [Scalar D] [Precision S D] {operation : Operation S} {scores : Tensor S}
  {outputs : List (Tensor S)} {references : List (Tensor D)} {thresholds : List D}

/-! ## Comparisons that pass -/

/-- **A comparison passes exactly if there are as many outputs as references and every output that
has a threshold agrees**, which is every output exactly if each of them has one. -/
theorem checkReference_covers :
    checkReference operation scores references thresholds = .ok () ↔
      ∃ outputs, operation.forward scores = .ok outputs ∧ outputs.length = references.length ∧
        AgreeWhereCompared outputs references thresholds ∧
          (OutputsAgree outputs references thresholds ↔ outputs.length ≤ thresholds.length) := by
  rw [checkReference_eq_ok_iff_compared]
  refine exists_congr fun outputs => and_congr_right fun _ => and_congr_right fun hlength => ?_
  refine (and_iff_left_of_imp fun hagree => ?_).symm
  rw [outputsAgree_iff]
  exact ⟨fun h => h.2.1, fun hthresholds => ⟨hlength, hthresholds, hagree⟩⟩

/-- Two equal scores compared with a reference of another shape, without any threshold. -/
theorem not_outputsAgree_withoutThresholds :
    let scores : Tensor Float32 := ⟨[1, 2], #v[0, 0]⟩
    let references : List (Tensor Float) := [⟨[1], #v[1]⟩]
    ¬ (checkReference (softmax 1) scores references [] = .ok () →
      ∃ outputs, (softmax 1).forward scores = .ok outputs ∧
        OutputsAgree outputs references []) := by
  intro scores references h
  obtain ⟨outputs, hforward, hagree⟩ := h rfl
  cases hforward
  cases (outputsAgree_iff.mp hagree).2.1

/-! ## Differences of one output -/

section Output

variable {number : Nat} {output : Tensor S} {reference : Tensor D} {threshold : D}
  {failure : CheckFailure S D}

/-- The first way in which the output of a number differs from its reference: in its shape, or else
in the first entry, by the order of indices, that is not close. -/
inductive Tensor.FirstDifference (number : Nat) (output : Tensor S) (reference : Tensor D)
    (threshold : D) : CheckFailure S D → Prop
  | shape (hshape : output.shape ≠ reference.shape) :
    FirstDifference number output reference threshold
      (.outputShape number reference.shape output.shape)
  | entry {index : List Nat} {a : S} {e : D} (hshape : output.shape = reference.shape)
    (hindex : output.shape.Contains index) (hactual : output.at? index = some a)
    (hexpected : reference.at? index = some e) (hfar : close (widen a) e threshold = false)
    (hbefore : ∀ i, output.shape.Contains i → i < index → output.AgreesAt reference threshold i) :
    FirstDifference number output reference threshold
      (.referenceMismatch number index (widen a) e)

theorem firstDifference_iff {expected : Vector D output.size} :
    output.FirstDifference number ⟨output.shape, expected⟩ threshold failure ↔
      ∃ k, close (widen (output.entries.get k)) (expected.get k) threshold = false ∧
        (∀ j < k, close (widen (output.entries.get j)) (expected.get j) threshold = true) ∧
        .referenceMismatch number (output.index k) (widen (output.entries.get k))
          (expected.get k) = failure := by
  constructor
  · rintro (hshape | @⟨index, a, e, -, hindex, ha, he, hfar, hbefore⟩)
    · exact absurd rfl hshape
    · obtain ⟨k, rfl⟩ : ∃ k, output.index k = index :=
        ⟨⟨output.shape.ravel index, Shape.ravel_lt hindex⟩, Shape.unravel_ravel hindex⟩
      cases (output.at?_index k).symm.trans ha
      cases (Tensor.at?_index ⟨output.shape, expected⟩ k).symm.trans he
      refine ⟨k, hfar, fun j hj => (agreesAt_index_iff j).mp ?_, rfl⟩
      exact hbefore _ (Shape.contains_unravel j.isLt) (output.index_lt_index_iff.mpr hj)
  · rintro ⟨k, hfar, hbefore, rfl⟩
    refine .entry rfl (Shape.contains_unravel k.isLt) (output.at?_index k)
      (Tensor.at?_index ⟨output.shape, expected⟩ k) hfar ?_
    refine Shape.forall_contains_iff.mpr fun j hj => (agreesAt_index_iff j).mpr (hbefore j ?_)
    exact output.index_lt_index_iff.mp hj

theorem checkOutput_eq_error_iff :
    checkOutput number output reference threshold = .error failure ↔
      output.FirstDifference number reference threshold failure := by
  by_cases hshape : reference.shape = output.shape
  · obtain ⟨_, expected⟩ := reference
    subst hshape
    rw [firstDifference_iff]
    obtain ⟨hok, hall⟩ | ⟨k, herror, hfar, hbefore⟩ :=
      checkOutput_cases number output expected threshold
    · rw [hok]
      refine iff_of_false (by rintro ⟨⟩) ?_
      rintro ⟨k, hfar, -, -⟩
      exact Bool.false_ne_true (hfar.symm.trans (hall k))
    · rw [herror]
      constructor
      · intro h
        exact ⟨k, hfar, hbefore, Except.error.inj h⟩
      · rintro ⟨j, hfar', hbefore', rfl⟩
        have hjk : ¬ j < k := fun hj => by simp [hbefore j hj] at hfar'
        have hkj : ¬ k < j := fun hk => by simp [hbefore' k hk] at hfar
        rw [le_antisymm (not_lt.mp hkj) (not_lt.mp hjk)]
  · rw [checkOutput, dif_neg hshape]
    constructor
    · intro h
      cases h
      exact .shape (Ne.symm hshape)
    · rintro (_ | ⟨heq, -, -, -, -, -⟩)
      · rfl
      · exact absurd heq.symm hshape

end Output

/-! ## The first disagreement -/

/-- An output, its reference and its threshold under a number, once all outputs before agree. -/
structure ComparedNext (outputs : List (Tensor S)) (references : List (Tensor D))
    (thresholds : List D) (number : Nat) (output : Tensor S) (reference : Tensor D)
    (threshold : D) : Prop where
  length : outputs.length = references.length
  output : outputs[number]? = some output
  reference : references[number]? = some reference
  threshold : thresholds[number]? = some threshold
  before : ∀ j < number, ∃ o r t, outputs[j]? = some o ∧ references[j]? = some r ∧
    thresholds[j]? = some t ∧ o.Agrees r t

/-- The first way in which outputs disagree with references: in their number, or else in the first
output that differs. -/
inductive FirstDisagreement (outputs : List (Tensor S)) (references : List (Tensor D))
    (thresholds : List D) : CheckFailure S D → Prop
  | count (hlength : outputs.length ≠ references.length) :
    FirstDisagreement outputs references thresholds
      (.outputCount references.length outputs.length)
  | output {number : Nat} {output : Tensor S} {reference : Tensor D} {threshold : D}
    {failure : CheckFailure S D}
    (hnext : ComparedNext outputs references thresholds number output reference threshold)
    (hdifference : output.FirstDifference number reference threshold failure) :
    FirstDisagreement outputs references thresholds failure

theorem forM_checkOutput_eq_error_iff {failure : CheckFailure S D}
    (hlength : outputs.length = references.length) :
    (((outputs.zip references).zip thresholds).zipIdx.forM
      fun (((output, reference), threshold), k) => checkOutput k output reference threshold) =
      .error failure ↔ FirstDisagreement outputs references thresholds failure := by
  rw [forM_eq_error_iff]
  constructor
  · rintro ⟨k, ⟨⟨⟨output, reference⟩, threshold⟩, number⟩, hk, hfailure, hbefore⟩
    obtain ⟨houtput, hreference, hthreshold, rfl⟩ := getElem?_compared.mp hk
    refine .output ⟨hlength, houtput, hreference, hthreshold, fun j hj => ?_⟩
      (checkOutput_eq_error_iff.mp hfailure)
    have hlt : k < thresholds.length := (List.getElem?_eq_some_iff.mp hthreshold).1
    have hlt' : k < outputs.length := (List.getElem?_eq_some_iff.mp houtput).1
    have ho : outputs[j]? = some outputs[j] := List.getElem?_eq_getElem (by omega)
    have hr : references[j]? = some references[j] := List.getElem?_eq_getElem (by omega)
    have ht : thresholds[j]? = some thresholds[j] := List.getElem?_eq_getElem (by omega)
    have hok := hbefore j hj _ (getElem?_compared.mpr ⟨ho, hr, ht, rfl⟩)
    exact ⟨_, _, _, ho, hr, ht, checkOutput_eq_ok_iff.mp hok⟩
  · rintro (hcount | @⟨k, output, reference, threshold, _, hnext, hdifference⟩)
    · exact absurd hlength hcount
    · refine ⟨k, _, getElem?_compared.mpr ⟨hnext.output, hnext.reference, hnext.threshold, rfl⟩,
        checkOutput_eq_error_iff.mpr hdifference, ?_⟩
      rintro j hj ⟨⟨⟨output, reference⟩, threshold⟩, number⟩ hat
      obtain ⟨houtput, hreference, hthreshold, rfl⟩ := getElem?_compared.mp hat
      obtain ⟨o, r, t, ho, hr, ht, hagrees⟩ := hnext.before j hj
      cases ho.symm.trans houtput
      cases hr.symm.trans hreference
      cases ht.symm.trans hthreshold
      exact checkOutput_eq_ok_iff.mpr hagrees

/-- **A comparison fails as the operation does, or else with the first disagreement** of its outputs
with the references. -/
theorem checkReference_eq_error_iff {failure : CheckFailure S D} :
    checkReference operation scores references thresholds = .error failure ↔
      (∃ e, operation.forward scores = .error e ∧ .shape e = failure) ∨
      ∃ outputs, operation.forward scores = .ok outputs ∧
        FirstDisagreement outputs references thresholds failure := by
  unfold checkReference
  rw [bind_eq_error_iff]
  refine or_congr refuse_eq_error_iff ?_
  refine exists_congr fun outputs => and_congr refuse_eq_ok_iff ?_
  by_cases hlength : outputs.length = references.length
  · rw [if_neg (not_not_intro hlength)]
    exact forM_checkOutput_eq_error_iff hlength
  · rw [if_pos hlength]
    constructor
    · intro h
      cases h
      exact .count hlength
    · rintro (_ | ⟨hnext, -⟩)
      · rfl
      · exact absurd hnext.length hlength

end CrossEntropy
