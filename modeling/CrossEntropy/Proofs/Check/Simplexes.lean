import CrossEntropy.Check
import CrossEntropy.Proofs.Outcome
import CrossEntropy.Proofs.Propagation

/-!
# Simplex checks

What the check of a list of distributions accepts, and what it reports of one that it does not: the
first distribution at fault, by its first negative entry or else by its sum.

* `IsDistribution`: no negative entry, and a sum close to one;
* `DistributionFault`: what is reported of a distribution at fault;
* `checkSimplexes_eq_ok_iff`, `checkSimplexes_eq_error_iff`: a list of distributions;
* **`checkSimplexes_exact`**: both, and nothing undefined or infinite is accepted.
-/

namespace CrossEntropy

open Scalar

variable {S D : Type} [Scalar S] {distributions : List (List S)} {tolerance : S}

/-! ## One distribution -/

section Distribution

variable {number : Nat} {probabilities : List S}

/-- Numbers none of which is negative, with a sum, from the left, close to one. -/
structure IsDistribution (probabilities : List S) (tolerance : S) : Prop where
  nonneg : ∀ p ∈ probabilities, lt p 0 = false
  sum : relativelyClose (probabilities.foldl (· + ·) 0) 1 0 tolerance = true

/-- What is reported of the distribution of a number: its first negative entry, and its sum only if
there is none. -/
inductive DistributionFault (number : Nat) (probabilities : List S) (tolerance : S) :
    CheckFailure S D → Prop
  | negative {before after : List S} {value : S} (hsplit : probabilities = before ++ value :: after)
    (hbefore : ∀ p ∈ before, lt p 0 = false) (hnegative : lt value 0 = true) :
    DistributionFault number probabilities tolerance (.simplexNegative number value)
  | sum (hnonneg : ∀ p ∈ probabilities, lt p 0 = false)
    (hsum : relativelyClose (probabilities.foldl (· + ·) 0) 1 0 tolerance = false) :
    DistributionFault number probabilities tolerance
      (.simplexSum number (probabilities.foldl (· + ·) 0))

theorem find?_negative_eq_none_iff :
    probabilities.find? (lt · 0) = none ↔ ∀ p ∈ probabilities, lt p 0 = false := by
  simp only [List.find?_eq_none, Bool.not_eq_true]

theorem find?_negative_eq_some_iff {value : S} :
    probabilities.find? (lt · 0) = some value ↔ lt value 0 = true ∧
      ∃ before after, probabilities = before ++ value :: after ∧ ∀ p ∈ before, lt p 0 = false := by
  simp only [List.find?_eq_some_iff_append, Bool.not_eq_true']

theorem checkDistribution_eq_ok_iff :
    (checkDistribution number probabilities tolerance : Checked S D Unit) = .ok () ↔
      IsDistribution probabilities tolerance := by
  unfold checkDistribution
  split
  next value hvalue =>
    refine iff_of_false (fun h => nomatch h) fun h => ?_
    rw [find?_negative_eq_none_iff.mpr h.nonneg] at hvalue
    cases hvalue
  next hnone =>
    have hnonneg := find?_negative_eq_none_iff.mp hnone
    dsimp only
    split
    next hsum => exact iff_of_true rfl ⟨hnonneg, hsum⟩
    next hsum => exact iff_of_false (fun h => nomatch h) fun h => hsum h.sum

theorem checkDistribution_eq_error_iff {failure : CheckFailure S D} :
    checkDistribution number probabilities tolerance = .error failure ↔
      DistributionFault number probabilities tolerance failure := by
  unfold checkDistribution
  split
  next value hvalue =>
    constructor
    · intro h
      cases h
      obtain ⟨hnegative, before, after, hsplit, hbefore⟩ := find?_negative_eq_some_iff.mp hvalue
      exact .negative hsplit hbefore hnegative
    · rintro (⟨hsplit, hbefore, hnegative⟩ | ⟨hnonneg, -⟩)
      · have hvalue' := find?_negative_eq_some_iff.mpr ⟨hnegative, _, _, hsplit, hbefore⟩
        cases hvalue.symm.trans hvalue'
        rfl
      · cases hvalue.symm.trans (find?_negative_eq_none_iff.mpr hnonneg)
  next hnone =>
    dsimp only
    split
    next hsum =>
      refine iff_of_false (fun h => nomatch h) ?_
      rintro (⟨hsplit, hbefore, hnegative⟩ | ⟨-, hsum'⟩)
      · cases hnone.symm.trans
          (find?_negative_eq_some_iff.mpr ⟨hnegative, _, _, hsplit, hbefore⟩)
      · exact Bool.false_ne_true (hsum'.symm.trans hsum)
    next hsum =>
      constructor
      · intro h
        cases h
        exact .sum (find?_negative_eq_none_iff.mp hnone) (Bool.eq_false_iff.mpr hsum)
      · rintro (⟨hsplit, hbefore, hnegative⟩ | -)
        · cases hnone.symm.trans
            (find?_negative_eq_some_iff.mpr ⟨hnegative, _, _, hsplit, hbefore⟩)
        · rfl

end Distribution

/-! ## Lists of distributions -/

omit [Scalar S] in
theorem getElem?_numbered {k number : Nat} {probabilities : List S} :
    distributions.zipIdx[k]? = some (probabilities, number) ↔
      distributions[k]? = some probabilities ∧ k = number := by
  rw [List.getElem?_zipIdx, Option.map_eq_some_iff, Nat.zero_add]
  constructor
  · rintro ⟨d, hd, hpair⟩
    cases hpair
    exact ⟨hd, rfl⟩
  · rintro ⟨hd, rfl⟩
    exact ⟨probabilities, hd, rfl⟩

theorem checkSimplexes_eq_ok_iff :
    (checkSimplexes distributions tolerance : Checked S D Unit) = .ok () ↔
      ∀ d ∈ distributions, IsDistribution d tolerance := by
  unfold checkSimplexes
  rw [forM_eq_ok_iff]
  constructor
  · intro h d hd
    obtain ⟨k, hk⟩ := List.mem_iff_getElem?.mp hd
    refine checkDistribution_eq_ok_iff.mp (h (d, k) ?_)
    exact List.mem_of_getElem? (getElem?_numbered.mpr ⟨hk, rfl⟩)
  · rintro h ⟨d, number⟩ hmem
    obtain ⟨k, hk⟩ := List.mem_iff_getElem?.mp hmem
    exact checkDistribution_eq_ok_iff.mpr
      (h d (List.mem_of_getElem? (getElem?_numbered.mp hk).1))

theorem checkSimplexes_eq_error_iff {failure : CheckFailure S D} :
    checkSimplexes distributions tolerance = .error failure ↔
      ∃ number probabilities, distributions[number]? = some probabilities ∧
        DistributionFault number probabilities tolerance failure ∧
        ∀ j < number, ∀ d, distributions[j]? = some d → IsDistribution d tolerance := by
  unfold checkSimplexes
  rw [forM_eq_error_iff]
  constructor
  · rintro ⟨k, ⟨d, number⟩, hk, hfailure, hbefore⟩
    obtain ⟨hd, rfl⟩ := getElem?_numbered.mp hk
    refine ⟨k, d, hd, checkDistribution_eq_error_iff.mp hfailure, fun j hj d' hd' => ?_⟩
    exact checkDistribution_eq_ok_iff.mp (hbefore j hj (d', j) (getElem?_numbered.mpr ⟨hd', rfl⟩))
  · rintro ⟨k, d, hd, hfault, hbefore⟩
    refine ⟨k, (d, k), getElem?_numbered.mpr ⟨hd, rfl⟩,
      checkDistribution_eq_error_iff.mpr hfault, ?_⟩
    rintro j hj ⟨d', number⟩ hj'
    exact checkDistribution_eq_ok_iff.mpr (hbefore j hj d' (getElem?_numbered.mp hj').1)

/-- A distribution has finite entries only, whatever the tolerance. -/
theorem IsDistribution.isFinite [PropagatingScalar S] {probabilities : List S}
    (h : IsDistribution probabilities tolerance) : ∀ p ∈ probabilities, IsFinite p :=
  (isFinite_of_foldl (isFinite_of_relativelyClose PropagatingScalar.isInfinite_one h.sum)).2

/-- **The check of simplexes accepts exactly the lists of distributions, and else reports the first
at fault**: its first negative entry if there is one, and its sum if not. Nothing undefined or
infinite is accepted, whatever the tolerance. -/
theorem checkSimplexes_exact [PropagatingScalar S] (distributions : List (List S)) (tolerance : S) :
    ((checkSimplexes distributions tolerance : Checked S D Unit) = .ok () ↔
      ∀ d ∈ distributions, IsDistribution d tolerance) ∧
    (∀ failure : CheckFailure S D, checkSimplexes distributions tolerance = .error failure ↔
      ∃ number probabilities, distributions[number]? = some probabilities ∧
        DistributionFault number probabilities tolerance failure ∧
        ∀ j < number, ∀ d, distributions[j]? = some d → IsDistribution d tolerance) ∧
    ((checkSimplexes distributions tolerance : Checked S D Unit) = .ok () →
      ∀ d ∈ distributions, ∀ p ∈ d, IsFinite p) := by
  refine ⟨checkSimplexes_eq_ok_iff, fun _ => checkSimplexes_eq_error_iff, fun h d hd => ?_⟩
  exact (checkSimplexes_eq_ok_iff.mp h d hd).isFinite

theorem checkSimplexes_exact_infinite :
    let quarters : List (List Float32) := [[0.25, 0.75], [1, 0]]
    let tolerance := Float32.ofBits 0x7f800000
    (checkSimplexes quarters tolerance : Checked Float32 Float Unit) = .ok () ∧
      ∀ d ∈ quarters, ∀ p ∈ d, IsFinite p := by
  have hok : (checkSimplexes [[0.25, 0.75], [1, 0]] (Float32.ofBits 0x7f800000) :
      Checked Float32 Float Unit) = .ok () := by
    rfl
  exact ⟨hok, (checkSimplexes_exact _ _).2.2 hok⟩

end CrossEntropy
