import CrossEntropy.Proofs.Largest
import CrossEntropy.Proofs.Probabilities

/-!
# Shifted scores

In an ordered field, whatever `exp` and `ln` are there, only the differences between the scores of
a distribution count: a constant may be added to each distribution, another one to every other.

* `Tensor.shift`: the scores with the constant of each location added;
* `softmaxLane_add`, `Split.LocatedBy.softmaxLanes_shiftedEntries`: the probabilities stay as they
  are;
* **`forward_backward_shift`**: so do all that both operations give, outputs and gradients.
-/

namespace CrossEntropy

open Scalar

section Shift

variable {S : Type} [Scalar S] (scores : Tensor S) (location : List Nat → List Nat)
  (constant : List Nat → S)

/-- The entries with the constant of their location added to them. -/
def Tensor.shiftedEntries : Vector S scores.size :=
  Vector.ofFn fun k => scores.entries.get k + constant (location (scores.index k))

/-- The scores of every location, with the location's constant added to them. -/
def Tensor.shift : Tensor S := ⟨scores.shape, scores.shiftedEntries location constant⟩

theorem Tensor.get_shiftedEntries (k : Fin scores.size) :
    (scores.shiftedEntries location constant).get k =
      scores.entries.get k + constant (location (scores.index k)) :=
  Vector.get_ofFn ..

end Shift

variable {F : Type} [LinearOrder F] [ExactScalar F] [MaximumScalar F]

/-! ## One distribution -/

section Lane

variable {d : Nat} {x y : Vector F d} {c : F}

theorem shiftedExponentials_add (h : ∀ j, y.get j = x.get j + c) :
    shiftedExponentials y = shiftedExponentials x := by
  apply ext_get
  intro j
  have hlargest : largest y = largest x + c := largest_add (Nat.zero_lt_of_lt j.isLt) h
  rw [get_shiftedExponentials, get_shiftedExponentials, h, hlargest, add_sub_add_right_eq_sub]

/-- **A constant added to all scores of a lane does not change its probabilities.** -/
theorem softmaxLane_add (h : ∀ j, y.get j = x.get j + c) : softmaxLane y = softmaxLane x := by
  rw [softmaxLane_eq_map, softmaxLane_eq_map, shiftedExponentials_add h]

end Lane

/-! ## All distributions of a tensor -/

theorem Split.LocatedBy.softmaxLanes_shiftedEntries {scores : Tensor F} {s : Split scores.size}
    {location : List Nat → List Nat} (h : s.LocatedBy location) (constant : List Nat → F) :
    softmaxLanes (s.lanes (scores.shiftedEntries location constant)) =
      softmaxLanes (s.lanes scores.entries) := by
  apply ext_get
  intro l
  rw [get_softmaxLanes, get_softmaxLanes]
  by_cases hclasses : 0 < s.classes
  · -- the constant of the lane is that of its first class
    apply softmaxLane_add (c := constant (location (scores.index (s.entry l ⟨0, hclasses⟩))))
    intro j
    rw [s.get_lanes, s.get_lanes, scores.get_shiftedEntries]
    exact congrArg (fun place => _ + constant place) (h.location_entry l j _)
  · apply ext_get
    intro j
    exact absurd (Nat.zero_lt_of_lt j.isLt) hclasses

/-- **Both operations are invariant under shifts**, a constant for every row of softmax from any
axis on and one for every location of softmax with loss: outputs and gradients do not change, and
neither does the reason for which scores are refused. -/
theorem forward_backward_shift {D : Type} [Scalar D] [Precision F D] :
    (∀ (axis : Nat) (scores : Tensor F) (constant : List Nat → F),
      (softmax axis).Alike (scores.shift (List.take axis) constant) scores) ∧
    ∀ (targets : Targets F) (scores : Tensor F) (constant : List Nat → F),
      (softmaxWithLoss targets).Alike (scores.shift (List.eraseIdx · 1) constant) scores := by
  constructor
  · intro axis scores constant
    apply softmax_alike
    exact (Split.flattened_locatedBy scores.shape axis).softmaxLanes_shiftedEntries constant
  · intro targets scores constant
    apply softmaxWithLoss_alike
    intro f hf
    exact hf.locatedBy.2.softmaxLanes_shiftedEntries constant

/-- Two pixels, one of them ignored, with ten added to the scores of one and twenty to those of the
other. -/
theorem forward_backward_shift_ignored :
    letI := ExactScalar.rational
    let targets : Targets ℚ := .pixels ⟨[1, 1, 2], #v[0, -1]⟩ (some ⟨[1, 1, 2], #v[3, 5]⟩)
    let scores : Tensor ℚ := ⟨[1, 2, 1, 2], #v[1, 2, 3, 4]⟩
    let shifted : Tensor ℚ := ⟨[1, 2, 1, 2], #v[11, 22, 13, 24]⟩
    (softmaxWithLoss targets).Alike shifted scores ∧
      (softmaxWithLoss targets).forward shifted =
        .ok [⟨[1, 2, 1, 2], #v[5/6, 5/6, 1/6, 1/6]⟩, Tensor.scalar (1/6)] := by
  let _ := ExactScalar.rational
  have := ExactScalar.maximumScalar ℚ (fun x => 1 + x * x) (fun x => x - 1) (1 / 100)
  intro targets scores shifted
  let constant : List Nat → ℚ := fun location => if location = [0, 0, 0] then 10 else 20
  have hshifted : scores.shift (List.eraseIdx · 1) constant = shifted := by decide +kernel
  have halike := forward_backward_shift.2 targets scores constant
  rw [hshifted] at halike
  exact ⟨halike, by decide +kernel⟩

end CrossEntropy
