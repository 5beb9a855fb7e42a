import CrossEntropy.Proofs.ChainRule
import CrossEntropy.Proofs.Random.Ranges

/-!
# Random distributions

Targets are drawn off zero and divided by the sum of their row. The quotients stay positive in any
arithmetic that keeps the order of what it rounds, since a row has too few classes for them to
vanish. Without rounding they sum to one.

* `MonotoneScalar`: sums and quotients of nonnegative numbers keep the order;
* `OffsetScalar`: the offset is not too small for rows of a few classes;
* `sum_bounds`, **`get_normalized_pos`**: sums of a row and its quotients;
* **`sum_get_normalized`**: the quotients of a row without rounding;
* `IsNormalized`, `satisfiesM_softLabels`: what is drawn.
-/

namespace CrossEntropy

open Scalar

/-! ## Rounded arithmetic -/

section Rounded

variable {S : Type} [Scalar S]

/-- Sums and quotients of nonnegative numbers keep the order. Arithmetic that rounds each result to
the nearest number does this, whether or not there are infinities; only dividing by an infinity can
make a quotient undefined. -/
class MonotoneScalar (α : Type) [Scalar α] : Prop where
  zero_le_zero : le (0 : α) 0 = true
  le_of_lt {a b : α} : lt a b = true → le a b = true
  le_trans {a b c : α} : le a b = true → le b c = true → le a c = true
  lt_of_lt_of_le {a b c : α} : lt a b = true → le b c = true → lt a c = true
  le_add {a b : α} : le 0 a = true → le 0 b = true → le b (a + b) = true
  add_le_add {a b c d : α} : le 0 a = true → le a b = true → le 0 c = true → le c d = true →
    le (a + c) (b + d) = true
  div_le_div {a b c d : α} : le 0 a = true → le a b = true → lt 0 c = true → le c d = true →
    isInfinite d = false → le (a / d) (b / c) = true

/-- The offset is positive, and still is when it is divided by a number of classes. -/
class OffsetScalar (α : Type) [Scalar α] [Sampled α] : Prop where
  offset_pos : lt (0 : α) Sampled.offset = true
  isInfinite_rowCount : ∀ d : Fin 17, isInfinite (Reference.rowCount d : α) = false
  quotient_pos : ∀ d : Fin 17, 0 < d.val →
    lt (0 : α) (Sampled.offset / Reference.rowCount d) = true

instance : OffsetScalar Float32 where
  offset_pos := by decide +kernel
  isInfinite_rowCount := by decide +kernel
  quotient_pos := by decide +kernel

instance : MonotoneScalar Extended where
  zero_le_zero := rfl
  le_of_lt := Extended.le_of_lt
  le_trans := Extended.le_trans
  lt_of_lt_of_le := Extended.lt_of_lt_of_le
  le_add := Extended.le_add
  add_le_add := Extended.add_le_add
  div_le_div {a b c d} ha hab hc hcd hfinite := by
    rcases d with _ | _ | d
    · rcases c with _ | ⟨_ | _⟩ | c <;> cases hcd
    · cases hfinite
    · obtain rfl | ⟨c, hle, rfl⟩ := Extended.le_finite_iff.mp hcd
      · cases hc
      · exact Extended.div_le_div ha hab (of_decide_eq_true (Extended.lt_finite.symm.trans hc)) hle

instance : OffsetScalar Extended where
  offset_pos := by decide +kernel
  isInfinite_rowCount := by decide +kernel
  quotient_pos := by decide +kernel

variable [MonotoneScalar S] {d : Nat}

theorem sum_bounds {x : Fin d → S} (hx : ∀ j, le 0 (x j) = true ∧ le (x j) 1 = true) :
    le 0 (Fin.foldl d (fun sum j => sum + x j) 0) = true ∧
      le (Fin.foldl d (fun sum j => sum + x j) 0) (Reference.rowCount d) = true := by
  unfold Reference.rowCount
  induction d with
  | zero => exact ⟨MonotoneScalar.zero_le_zero, MonotoneScalar.zero_le_zero⟩
  | succ d ih =>
    obtain ⟨hlow, hhigh⟩ := hx (Fin.last d)
    obtain ⟨hnonneg, hcount⟩ := ih fun j => hx j.castSucc
    rw [Fin.foldl_succ_last, Fin.foldl_succ_last]
    exact ⟨MonotoneScalar.le_trans hlow (MonotoneScalar.le_add hnonneg hlow),
      MonotoneScalar.add_le_add hnonneg hcount hlow hhigh⟩

theorem last_le_sum {x : Fin (d + 1) → S} (hx : ∀ j, le 0 (x j) = true ∧ le (x j) 1 = true) :
    le (x (Fin.last d)) (Fin.foldl (d + 1) (fun sum j => sum + x j) 0) = true := by
  rw [Fin.foldl_succ_last]
  exact MonotoneScalar.le_add (sum_bounds fun j => hx j.castSucc).1 (hx (Fin.last d)).1

variable [Sampled S] [OffsetScalar S] {row : Vector S d}

/-- Entries of a row are at least the offset and below one. -/
def OffZero (row : Vector S d) : Prop :=
  ∀ j, le Sampled.offset (row.get j) = true ∧ lt (row.get j) 1 = true

theorem OffZero.bounds (hrow : OffZero row) (j : Fin d) :
    le 0 (row.get j) = true ∧ le (row.get j) 1 = true :=
  ⟨MonotoneScalar.le_of_lt (MonotoneScalar.lt_of_lt_of_le OffsetScalar.offset_pos (hrow j).1),
    MonotoneScalar.le_of_lt (hrow j).2⟩

theorem total_pos (hd : 0 < d) (hrow : OffZero row) : lt 0 (total row) = true := by
  obtain ⟨d, rfl⟩ := Nat.exists_eq_succ_of_ne_zero hd.ne'
  have hlast : lt 0 (row.get (Fin.last d)) = true :=
    MonotoneScalar.lt_of_lt_of_le OffsetScalar.offset_pos (hrow _).1
  rw [total_eq]
  exact MonotoneScalar.lt_of_lt_of_le hlast (last_le_sum hrow.bounds)

/-- **The entries of a row over their sum are positive**: none of them is below the offset over the
number of classes. -/
theorem get_normalized_pos (hd : 0 < d ∧ d ≤ 16) (hrow : OffZero row) (j : Fin d) :
    lt 0 ((Draw.normalized row).get j) = true := by
  have hcount : le (total row) (Reference.rowCount d) = true := by
    rw [total_eq]
    exact (sum_bounds hrow.bounds).2
  have hquotient : lt 0 (Sampled.offset / Reference.rowCount d : S) = true :=
    OffsetScalar.quotient_pos ⟨d, by omega⟩ hd.1
  have hfinite : isInfinite (Reference.rowCount d : S) = false :=
    OffsetScalar.isInfinite_rowCount ⟨d, by omega⟩
  rw [Draw.normalized, Vector.get_map]
  exact MonotoneScalar.lt_of_lt_of_le hquotient <| MonotoneScalar.div_le_div
    (MonotoneScalar.le_of_lt OffsetScalar.offset_pos) (hrow j).1 (total_pos hd.1 hrow) hcount
    hfinite

end Rounded

/-! ## Exact arithmetic -/

section Exact

variable {F : Type} [ExactScalar F]

instance OrderedScalar.toMonotoneScalar [LinearOrder F] [OrderedScalar F] : MonotoneScalar F where
  zero_le_zero := le_iff.mpr (le_refl 0)
  le_of_lt h := le_iff.mpr (lt_iff.mp h).le
  le_trans h h' := le_iff.mpr ((le_iff.mp h).trans (le_iff.mp h'))
  lt_of_lt_of_le h h' := lt_iff.mpr ((lt_iff.mp h).trans_le (le_iff.mp h'))
  le_add h _ := le_iff.mpr (le_add_of_nonneg_left (le_iff.mp h))
  add_le_add _ h _ h' := le_iff.mpr (add_le_add (le_iff.mp h) (le_iff.mp h'))
  div_le_div hnonneg h hpos h' _ := le_iff.mpr <|
    div_le_div₀ ((le_iff.mp hnonneg).trans (le_iff.mp h)) (le_iff.mp h) (lt_iff.mp hpos)
      (le_iff.mp h')

/-- **A row over its sum sums to one** without rounding. -/
theorem sum_get_normalized {d : Nat} {row : Vector F d} (h : total row ≠ 0) :
    ∑ j, (Draw.normalized row).get j = 1 := by
  simp only [Draw.normalized, Vector.get_map, ← Finset.sum_div, ← total_eq_sum]
  exact div_self h

end Exact

/-! ## Draws -/

section Draws

variable {σ S : Type} [Source σ] [Scalar S] [Sampled S]

/-- Entries of targets are rows off zero over their sums. -/
def IsNormalized {n d : Nat} (entries : Vector S (Shape.size [n, d])) : Prop :=
  ∀ i, ∃ row : Vector S d, OffZero row ∧ Reference.byClass entries i = (Draw.normalized row).get

theorem satisfiesM_softLabels [LawfulSampled S] (n d : Nat) :
    SatisfiesM (fun targets => ∃ entries, IsNormalized entries ∧ targets = ⟨[n, d], entries⟩)
      (Draw.softLabels n d : Draw σ (Tensor S)) := by
  refine (satisfiesM_many LawfulSampled.within_offset _).bind fun drawn hdrawn => ?_
  refine SatisfiesM.pure ⟨_, ?_, rfl⟩
  intro i
  let row : Vector S d := ((Split.classAxis n d []).lanes drawn).get (rowLane i)
  refine ⟨row, fun j => ?_, funext fun j => ?_⟩
  · have hentry : row.get j = drawn.get _ := (Split.classAxis n d []).get_lanes drawn _ j
    rw [hentry]
    exact hdrawn _ (Vector.getElem_mem _)
  · exact (byClass_join _ i j).trans (congrArg (Vector.get · j) (Vector.get_map ..))

end Draws

end CrossEntropy
