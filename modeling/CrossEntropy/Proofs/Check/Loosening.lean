import CrossEntropy.Proofs.Check.Passes
import CrossEntropy.Proofs.Extended

/-!
# Loosened tolerances

What agrees up to a tolerance agrees up to any larger one, so that no check fails on account of
larger tolerances.

* `ToleranceScalar`: what closeness asks of an arithmetic;
* `Tolerances.Loosens`: thresholds at least as large, and the same step;
* `relativelyClose_mono`, `close_mono`: closeness;
* `checkReference_mono`, `checkSimplexes_mono`, `checkGradients_mono`: the checks;
* **`checkCase_mono`**: an example that passes still passes.
-/

namespace CrossEntropy

open Scalar Precision

/-! ## Closeness -/

section Closeness

variable {α : Type} [Scalar α]

/-- The larger magnitude of two numbers. -/
def largerMagnitude (a b : α) : α := if lt (abs a) (abs b) then abs b else abs a

/-- What closeness asks of an arithmetic: numbers are ordered, and multiplying by a positive one
keeps the order. In binary floating point both hold, with nothing comparable to what is undefined;
only multiplying by zero or an infinity can make a product undefined. -/
class ToleranceScalar (α : Type) [Scalar α] : Prop where
  le_trans {a b c : α} : le a b = true → le b c = true → le a c = true
  mul_le_mul {a b c : α} : lt 0 a = true → isInfinite a = false → le b c = true →
    le (a * b) (a * c) = true
  isInfinite_abs (a : α) : isInfinite (abs a) = isInfinite a
  /-- Numbers that differ, by an amount that is defined, are not both zero. -/
  largerMagnitude_pos {a b c : α} : eq a b = false → le (abs (a - b)) c = true →
    lt 0 (largerMagnitude a b) = true

variable [ToleranceScalar α] {a b absolute absolute' relative relative' threshold threshold' : α}

theorem isInfinite_largerMagnitude (ha : isInfinite a = false) (hb : isInfinite b = false) :
    isInfinite (largerMagnitude a b) = false := by
  unfold largerMagnitude
  split
  · rw [ToleranceScalar.isInfinite_abs, hb]
  · rw [ToleranceScalar.isInfinite_abs, ha]

omit [ToleranceScalar α] in
theorem relativelyClose_iff :
    relativelyClose a b absolute relative = true ↔ eq a b = true ∨
      (isInfinite a = false ∧ isInfinite b = false ∧
        (le (abs (a - b)) absolute = true ∨
          le (abs (a - b)) (largerMagnitude a b * relative) = true)) := by
  unfold relativelyClose largerMagnitude
  cases eq a b <;> cases isInfinite a <;> cases isInfinite b <;>
    cases le (abs (a - b)) absolute <;> simp

theorem relativelyClose_mono
    (habsolute : ∀ x, le x absolute = true → le x absolute' = true)
    (hrelative : le relative relative' = true)
    (h : relativelyClose a b absolute relative = true) :
    relativelyClose a b absolute' relative' = true := by
  rw [relativelyClose_iff] at h ⊢
  cases heq : eq a b with
  | true => exact .inl rfl
  | false =>
    obtain h | ⟨ha, hb, h | h⟩ := h
    · exact absurd (heq.symm.trans h) Bool.false_ne_true
    · exact .inr ⟨ha, hb, .inl (habsolute _ h)⟩
    · have hlarger : le (largerMagnitude a b * relative) (largerMagnitude a b * relative') = true :=
        ToleranceScalar.mul_le_mul (ToleranceScalar.largerMagnitude_pos heq h)
          (isInfinite_largerMagnitude ha hb) hrelative
      exact .inr ⟨ha, hb, .inr (ToleranceScalar.le_trans h hlarger)⟩

theorem close_mono (hthreshold : le threshold threshold' = true)
    (h : close a b threshold = true) : close a b threshold' = true := by
  unfold close at h ⊢
  split
  next hnan => rwa [if_pos hnan] at h
  next hnan =>
    rw [if_neg hnan] at h
    exact relativelyClose_mono (fun x hx => ToleranceScalar.le_trans hx hthreshold) hthreshold h

end Closeness

/-! ## Numbers with infinities -/

theorem largerMagnitude_finite (p q : ℚ) :
    largerMagnitude (Extended.finite p) (.finite q) = .finite (max |p| |q|) := by
  have hlt : lt (abs (Extended.finite p)) (abs (Extended.finite q)) = decide (|p| < |q|) :=
    Extended.lt_finite
  rw [largerMagnitude, hlt]
  split
  next h => rw [max_eq_right (of_decide_eq_true h).le]; rfl
  next h => rw [max_eq_left (not_lt.mp fun hlt => h (decide_eq_true hlt))]; rfl

theorem largerMagnitude_pos_of_ne {a b c : Extended} (hne : eq a b = false)
    (h : le (abs (a - b)) c = true) : lt 0 (largerMagnitude a b) = true := by
  rcases a with _ | s | p <;> rcases b with _ | t | q
  case finite.finite =>
    have hne : p ≠ q := of_decide_eq_false (Extended.eq_finite.symm.trans hne)
    have hpos : 0 < max |p| |q| := by
      rw [lt_max_iff, abs_pos, abs_pos]
      by_contra! hzero
      exact hne (hzero.1.trans hzero.2.symm)
    rw [largerMagnitude_finite]
    exact Extended.lt_finite.trans (decide_eq_true hpos)
  case infinite.infinite => cases s <;> cases t <;> rfl
  case infinite.finite => cases s <;> rfl
  case finite.infinite => cases t <;> rfl
  -- the difference from what is undefined is undefined
  all_goals cases h

instance : ToleranceScalar Extended where
  le_trans := Extended.le_trans
  mul_le_mul {a b c} ha hfinite h := by
    rcases a with _ | _ | p
    · cases ha
    · cases hfinite
    · exact Extended.mul_le_mul (of_decide_eq_true (Extended.lt_finite.symm.trans ha)) h
  isInfinite_abs a := by cases a <;> rfl
  largerMagnitude_pos := largerMagnitude_pos_of_ne

/-! ## Checks -/

variable {S D : Type} [Scalar S] [Scalar D] [Precision S D]

/-- Thresholds at least as large as others, with the same step. None of them is undefined, since
nothing compares with that. -/
structure Tolerances.Loosens (loose strict : Tolerances S D) : Prop where
  stepsize : loose.stepsize = strict.stepsize
  gradient : le strict.gradient loose.gradient = true
  reference : le strict.reference loose.reference = true
  loss : le strict.loss loose.loss = true
  simplex : le strict.simplex loose.simplex = true

section References

variable [ToleranceScalar D]

omit [Scalar S] in
theorem Tensor.Agrees.mono {output : Tensor S} {reference : Tensor D} {threshold threshold' : D}
    (hthreshold : le threshold threshold' = true) (h : output.Agrees reference threshold) :
    output.Agrees reference threshold' where
  shape := h.shape
  entries index hindex := by
    obtain ⟨a, e, ha, he, hclose⟩ := h.entries index hindex
    exact ⟨a, e, ha, he, close_mono hthreshold hclose⟩

omit [Scalar S] in
theorem OutputsAgree.mono {outputs : List (Tensor S)} {references : List (Tensor D)}
    {thresholds thresholds' : List D}
    (hthresholds : List.Forall₂ (fun t t' => le t t' = true) thresholds thresholds')
    (h : OutputsAgree outputs references thresholds) :
    OutputsAgree outputs references thresholds' where
  length := h.length
  agrees k output houtput := by
    obtain ⟨reference, t, hreference, ht, hagrees⟩ := h.agrees k output houtput
    obtain ⟨hk, rfl⟩ := List.getElem?_eq_some_iff.mp ht
    have hk' : k < thresholds'.length := hthresholds.length_eq ▸ hk
    exact ⟨reference, thresholds'[k], hreference, List.getElem?_eq_getElem hk',
      hagrees.mono (hthresholds.get hk hk')⟩

end References

section Simplexes

variable [ToleranceScalar S] {tolerance tolerance' : S}

theorem IsDistribution.mono {probabilities : List S} (htolerance : le tolerance tolerance' = true)
    (h : IsDistribution probabilities tolerance) : IsDistribution probabilities tolerance' where
  nonneg := h.nonneg
  sum := relativelyClose_mono (fun _ hx => hx) htolerance h.sum

omit [Scalar D] [Precision S D] in
theorem checkSimplexes_mono {distributions : List (List S)}
    (htolerance : le tolerance tolerance' = true)
    (h : (checkSimplexes distributions tolerance : Checked S D Unit) = .ok ()) :
    (checkSimplexes distributions tolerance' : Checked S D Unit) = .ok () := by
  rw [checkSimplexes_eq_ok_iff] at h ⊢
  exact fun d hd => (h d hd).mono htolerance

end Simplexes

variable [ToleranceScalar D] {strict loose : Tolerances S D}

theorem checkGradients_mono {operation : Operation S} {scores : Tensor S} {output : Nat}
    (hloosens : loose.Loosens strict)
    (h : checkGradients operation scores output strict = .ok ()) :
    checkGradients operation scores output loose = .ok () := by
  rw [checkGradients_eq_ok_iff] at h ⊢
  obtain ⟨outputs, y, gradient, hforward, hy, hbackward, hagrees⟩ := h
  refine ⟨outputs, y, gradient, hforward, hy, hbackward, hagrees.shape, fun k => ?_⟩
  obtain ⟨a, numeric, ha, hnumeric, hclose⟩ := hagrees.entries k
  rw [← hloosens.stepsize] at hnumeric
  exact ⟨a, numeric, ha, hnumeric, close_mono hloosens.gradient hclose⟩

theorem checkReference_mono {case : Case} {inputs : CaseInputs S} {subject : Subject S D}
    {scores : Tensor S} (hsubject : case.subject inputs = .ok subject)
    (hloosens : loose.Loosens strict)
    (h : checkReference subject.operation scores subject.references
      [strict.reference, strict.loss] = .ok ()) :
    checkReference subject.operation scores subject.references
      [loose.reference, loose.loss] = .ok () := by
  have hlength : subject.references.length ≤ 2 := references_length_le hsubject
  rw [checkReference_eq_ok_iff hlength] at h ⊢
  obtain ⟨outputs, hforward, hagree⟩ := h
  exact ⟨outputs, hforward, hagree.mono (.cons hloosens.reference (.cons hloosens.loss .nil))⟩

/-- **An example that passes still passes with larger tolerances.** -/
theorem checkCase_mono [ToleranceScalar S] {case : Case} {inputs : CaseInputs S}
    (hloosens : loose.Loosens strict) (h : checkCase case inputs strict = .ok ()) :
    checkCase case inputs loose = .ok () := by
  unfold checkCase at h ⊢
  simp only [bind_eq_ok_iff, refuse_eq_ok_iff] at h ⊢
  obtain ⟨subject, hsubject, ⟨⟩, hreference, p, hp, distributions, hdistributions, ⟨⟩, hsimplexes,
    hgradients⟩ := h
  refine ⟨subject, hsubject, (), checkReference_mono hsubject hloosens hreference, p, hp,
    distributions, hdistributions, (), checkSimplexes_mono hloosens.simplex hsimplexes, ?_⟩
  split
  next hchecked =>
    rw [if_pos hchecked] at hgradients
    exact checkGradients_mono hloosens hgradients
  next => rfl

end CrossEntropy
