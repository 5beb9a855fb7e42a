import CrossEntropy.Proofs.Fold
import CrossEntropy.Softmax

/-!
# Softmax of a lane

What an operation does with one lane, entry by entry, whatever the numbers compute: the softmax
of a lane is the formula of the references.

* `largest_eq_greatest`, `total_eq`: the shift and the scale;
* **`get_softmaxLane`**: an entry of the softmax of a lane;
* `get_join_softmaxLanes`: an entry of the softmax of all lanes of a tensor.
-/

namespace CrossEntropy

open Scalar

variable {A : Type} [Scalar A] {d : Nat}

theorem largest_eq_greatest (x : Vector A d) : largest x = Reference.greatest x.get := by
  have hstart : x[0]?.getD 0 = if hd : 0 < d then x.get ⟨0, hd⟩ else 0 := by
    split
    next hd => rw [Vector.getElem?_eq_getElem hd]; rfl
    next hd => rw [Vector.getElem?_eq_none (by omega)]; rfl
  rw [largest, foldl_eq, hstart, Reference.greatest]

theorem total_eq (x : Vector A d) : total x = Fin.foldl d (fun sum j => sum + x.get j) 0 :=
  foldl_eq _ _ x

/-- **An entry of the softmax of a lane** is the formula for its probability. -/
theorem get_softmaxLane (x : Vector A d) (j : Fin d) :
    (softmaxLane x).get j = Reference.probability x.get j := by
  unfold softmaxLane Reference.probability
  simp only [Vector.get_map, total_eq, largest_eq_greatest]

theorem get_softmaxLanes {n : Nat} (x : Vector (Vector A d) n) (l : Fin n) :
    (softmaxLanes x).get l = softmaxLane (x.get l) :=
  Vector.get_map ..

namespace Split

variable {α : Type} {size : Nat} (s : Split size)

theorem get_lanes_eq (x : Vector α size) (l : Fin s.count) :
    ((s.lanes x).get l).get = fun c => x.get (s.entry l c) :=
  funext fun c => s.get_lanes x l c

theorem get_join_entry (b : Vector (Vector α s.classes) s.count) (l : Fin s.count)
    (c : Fin s.classes) : (s.join b).get (s.entry l c) = (b.get l).get c := by
  rw [get_join, laneOf_entry, classOf_entry]

theorem ext_entry {x y : Vector α size} (h : ∀ l c, x.get (s.entry l c) = y.get (s.entry l c)) :
    x = y := by
  refine ext_get fun k => ?_
  rw [← s.entry_laneOf_classOf k]
  exact h _ _

theorem get_softmaxLanes_lanes (x : Vector A size) (l : Fin s.count) (c : Fin s.classes) :
    ((softmaxLanes (s.lanes x)).get l).get c =
      Reference.probability (fun c => x.get (s.entry l c)) c := by
  rw [get_softmaxLanes, get_softmaxLane, get_lanes_eq]

theorem get_join_softmaxLanes (x : Vector A size) (l : Fin s.count) (c : Fin s.classes) :
    (s.join (softmaxLanes (s.lanes x))).get (s.entry l c) =
      Reference.probability (fun c => x.get (s.entry l c)) c := by
  rw [get_join_entry, get_softmaxLanes_lanes]

theorem entry_of_rows (hinner : s.inner = 1) (l : Fin s.count) (c : Fin s.classes) :
    (s.entry l c).val = l * s.classes + c := by
  simp [entry, hinner, Nat.mod_one]

theorem row_of_lane_lt (hinner : s.inner = 1) (l : Fin s.count) : l.val < s.outer :=
  Nat.lt_of_lt_of_eq l.isLt (by rw [count, hinner, Nat.mul_one])

end Split

end CrossEntropy
