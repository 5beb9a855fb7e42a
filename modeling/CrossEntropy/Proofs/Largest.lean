import CrossEntropy.Proofs.Exact
import CrossEntropy.Proofs.Lane

/-!
# The largest entry

Softmax shifts the scores of a lane by the largest of them before it takes exponentials. In an
ordered field this is the greatest entry of the lane.

* `shiftedExponentials`: the exponentials of a lane, before they are divided by their sum;
* `le_largest`, `exists_get_eq_largest`: it bounds the entries and is one of them;
* **`largest_add`**: it moves with the entries.
-/

namespace CrossEntropy

open Scalar

/-! ## Exponentials of shifted scores -/

section Exponentials

variable {S : Type} [Scalar S] {d : Nat}

/-- The exponentials of a lane's scores, with the largest score shifted to zero. -/
def shiftedExponentials (x : Vector S d) : Vector S d :=
  x.map fun score => exp (score - largest x)

theorem get_shiftedExponentials (x : Vector S d) (c : Fin d) :
    (shiftedExponentials x).get c = exp (x.get c - largest x) :=
  Vector.get_map ..

theorem softmaxLane_eq_map (x : Vector S d) :
    softmaxLane x = (shiftedExponentials x).map (· / total (shiftedExponentials x)) :=
  rfl

theorem get_softmaxLane_eq_div (x : Vector S d) (c : Fin d) :
    (softmaxLane x).get c = (shiftedExponentials x).get c / total (shiftedExponentials x) := by
  rw [softmaxLane_eq_map]
  exact Vector.get_map ..

end Exponentials

variable {F : Type} [LinearOrder F] [ExactScalar F] [MaximumScalar F] {d : Nat}

/-! ## Maxima as folds -/

section Maximum

variable (f : Fin d → F) (a : F)

omit [ExactScalar F] [MaximumScalar F] in
theorem le_foldl_max (j : Fin d) : f j ≤ Fin.foldl d (fun b j => max b (f j)) a := by
  induction d with
  | zero => exact j.elim0
  | succ d ih =>
    rw [Fin.foldl_succ_last]
    cases j using Fin.lastCases with
    | last => exact le_max_right _ _
    | cast j => exact le_max_of_le_left (ih (fun j => f j.castSucc) j)

omit [ExactScalar F] [MaximumScalar F] in
theorem foldl_max_eq_or :
    Fin.foldl d (fun b j => max b (f j)) a = a ∨
      ∃ j, f j = Fin.foldl d (fun b j => max b (f j)) a := by
  induction d with
  | zero => exact .inl (Fin.foldl_zero ..)
  | succ d ih =>
    rw [Fin.foldl_succ_last]
    obtain hleft | hright := max_choice (Fin.foldl d (fun b j => max b (f j.castSucc)) a)
      (f (Fin.last d))
    · rw [hleft]
      obtain ha | ⟨j, hj⟩ := ih fun j => f j.castSucc
      · exact .inl ha
      · exact .inr ⟨j.castSucc, hj⟩
    · exact .inr ⟨Fin.last d, hright.symm⟩

theorem foldl_max_add (c : F) :
    Fin.foldl d (fun b j => max b (f j + c)) (a + c) =
      Fin.foldl d (fun b j => max b (f j)) a + c := by
  have := MaximumScalar.toIsStrictOrderedRing (F := F)
  induction d with
  | zero => rw [Fin.foldl_zero, Fin.foldl_zero]
  | succ d ih =>
    rw [Fin.foldl_succ_last, Fin.foldl_succ_last, ih fun j => f j.castSucc, max_add_add_right]

end Maximum

/-! ## The largest entry of a lane -/

theorem largest_eq_foldl (hd : 0 < d) (x : Vector F d) :
    largest x = Fin.foldl d (fun best j => max best (x.get j)) (x.get ⟨0, hd⟩) := by
  rw [largest_eq_greatest, Reference.greatest, MaximumScalar.bottom?_eq_none, Option.getD_none,
    dif_pos hd]
  simp only [MaximumScalar.larger_eq_max]

theorem le_largest (x : Vector F d) (c : Fin d) : x.get c ≤ largest x := by
  rw [largest_eq_foldl (Nat.zero_lt_of_lt c.isLt)]
  exact le_foldl_max x.get _ c

theorem exists_get_eq_largest (hd : 0 < d) (x : Vector F d) : ∃ c, x.get c = largest x := by
  rw [largest_eq_foldl hd]
  obtain hfirst | hlater := foldl_max_eq_or x.get (x.get ⟨0, hd⟩)
  · exact ⟨⟨0, hd⟩, hfirst.symm⟩
  · exact hlater

/-- **The largest entry moves with the entries.** -/
theorem largest_add (hd : 0 < d) {x y : Vector F d} {c : F} (h : ∀ j, y.get j = x.get j + c) :
    largest y = largest x + c := by
  rw [largest_eq_foldl hd, largest_eq_foldl hd, ← foldl_max_add]
  simp only [h]

end CrossEntropy
