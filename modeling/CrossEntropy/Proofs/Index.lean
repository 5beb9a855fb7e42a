import Mathlib
import CrossEntropy.Tensor

/-!
# Entries by index

* `Shape.forall_contains_iff`: all indices of a shape;
* `Shape.ravel_append`: the number of an index in two parts;
* **`Shape.ravel_lt_ravel_iff`**: row-major order is the lexicographic order of indices;
* `Tensor.at?`: the entry at a multi-index;
* `at?_index`, `index_lt_index_iff`: the index of an entry leads to it, in the entries' order;
* `ext_at?`: tensors of one shape are equal if they agree at every index;
* **`transpose_transpose`**: dimensions reversed twice are as they were.
-/

namespace CrossEntropy

theorem Shape.forall_contains_iff {s : Shape} {P : List Nat → Prop} :
    (∀ index, s.Contains index → P index) ↔ ∀ k : Fin (size s), P (s.unravel k) := by
  constructor
  · intro h k
    exact h _ (contains_unravel k.isLt)
  · intro h index hindex
    have := h ⟨s.ravel index, ravel_lt hindex⟩
    rwa [unravel_ravel hindex] at this

theorem Shape.length_of_contains {s : Shape} {index : List Nat} (h : s.Contains index) :
    s.length = index.length := by
  induction s generalizing index with
  | nil => cases index with
    | nil => rfl
    | cons => exact h.elim
  | cons k s ih => cases index with
    | nil => exact h.elim
    | cons i index => exact congrArg Nat.succ (ih h.2)

/-- The number of an index is that of its first part, in steps of the size of the second, and that
of its second part. -/
theorem Shape.ravel_append {s : Shape} {i : List Nat} (h : s.length = i.length) (t : Shape)
    (j : List Nat) : ravel (s ++ t) (i ++ j) = ravel s i * size t + ravel t j := by
  induction s generalizing i with
  | nil => cases i with
    | nil => simp [ravel]
    | cons => cases h
  | cons k s ih => cases i with
    | nil => cases h
    | cons a i =>
      simp only [List.cons_append, ravel, ih (Nat.succ.inj h), size_append]
      ring

/-- **Row-major order is the lexicographic order of indices.** -/
theorem Shape.ravel_lt_ravel_iff {s : Shape} {i j : List Nat} (hi : s.Contains i)
    (hj : s.Contains j) : s.ravel i < s.ravel j ↔ i < j := by
  induction s generalizing i j with
  | nil =>
    cases i <;> cases j
    case nil.nil => exact iff_of_false (Nat.lt_irrefl _) (List.lt_irrefl [])
    all_goals first | exact hi.elim | exact hj.elim
  | cons k s ih =>
    cases i with
    | nil => exact hi.elim
    | cons a i => cases j with
      | nil => exact hj.elim
      | cons b j =>
        have hlti := ravel_lt hi.2
        have hltj := ravel_lt hj.2
        -- a smaller first part puts the whole block of its index first
        have hblock {p q : Nat} (h : p < q) : p * size s + size s ≤ q * size s := by
          rw [← Nat.succ_mul]
          exact Nat.mul_le_mul_right (size s) h
        rw [List.cons_lt_cons_iff, ravel, ravel, ← ih hi.2 hj.2]
        rcases Nat.lt_trichotomy a b with h | rfl | h
        · have := hblock h
          omega
        · omega
        · have := hblock h
          omega

namespace Tensor

variable {α : Type}

/-- The entry at a multi-index. -/
def at? (x : Tensor α) (index : List Nat) : Option α :=
  x.entries[x.shape.ravel index]?

theorem at?_index (x : Tensor α) (k : Fin x.size) : x.at? (x.index k) = some (x.entries.get k) := by
  unfold at? index
  rw [Shape.ravel_unravel k.isLt]
  exact Vector.getElem?_eq_getElem k.isLt

theorem index_lt_index_iff (x : Tensor α) {j k : Fin x.size} : x.index j < x.index k ↔ j < k := by
  have h := Shape.ravel_lt_ravel_iff (Shape.contains_unravel j.isLt)
    (Shape.contains_unravel k.isLt)
  rw [Shape.ravel_unravel j.isLt, Shape.ravel_unravel k.isLt] at h
  exact h.symm

theorem ext_at? {x y : Tensor α} (hshape : x.shape = y.shape)
    (h : ∀ index, y.shape.Contains index → x.at? index = y.at? index) : x = y := by
  obtain ⟨shape, entries⟩ := x
  obtain ⟨_, entries'⟩ := y
  subst hshape
  refine congrArg (Tensor.mk shape) (Vector.ext fun k hk => ?_)
  have hindex := h _ (Shape.contains_unravel hk)
  exact Option.some_inj.mp
    ((at?_index ⟨shape, entries⟩ ⟨k, hk⟩).symm.trans
      (hindex.trans (at?_index ⟨shape, entries'⟩ ⟨k, hk⟩)))

theorem at?_transpose (x : Tensor α) {index : List Nat} (h : x.shape.Contains index) :
    x.transpose.at? index.reverse = x.at? index := by
  have hlt := Shape.ravel_lt (Shape.contains_reverse h)
  have hindex := Shape.unravel_ravel (Shape.contains_reverse h)
  unfold at?
  rw [Vector.getElem?_eq_getElem (Shape.ravel_lt h)]
  refine (Vector.getElem?_eq_getElem hlt).trans (congrArg some ?_)
  simp [transpose, Shape.reversed, hindex, Vector.get]

/-- **Dimensions reversed twice are as they were.** -/
theorem transpose_transpose (x : Tensor α) : x.transpose.transpose = x := by
  refine ext_at? (List.reverse_reverse x.shape) fun index h => ?_
  have htwice := at?_transpose x.transpose (Shape.contains_reverse h)
  rw [List.reverse_reverse] at htwice
  exact htwice.trans (at?_transpose x h)

end Tensor

end CrossEntropy
