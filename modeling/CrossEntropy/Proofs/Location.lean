import Mathlib
import CrossEntropy.Proofs.Index
import CrossEntropy.Proofs.Places

/-!
# Locations

The classes of a distribution share a location: what the index of an entry says before the axis, or
apart from its class. Locations tell the lanes of a split apart, so that a sum over a lane is one
over all entries at a location.

* `Shape.take_unravel`, `take_index_eq_iff`: the index before an axis numbers the row;
* `eraseIdx_index`, `eraseIdx_index_eq_iff`: without the class it numbers the lane along the class
  axis;
* `Split.LocatedBy`: two entries share a location exactly if they are in one lane;
* `Shape.peers`, **`Split.LocatedBy.sum_peers`**: the entries at a location, and sums over them;
* `Tensor.AgreeOn`, `agreeOn_iff`: tensors with the same entries at some places, by index and by the
  number of an entry;
* `Split.lanes_congr`, `Split.agreeOn_join`: lanes of such tensors, and tensors of such lanes.
-/

namespace CrossEntropy

namespace Shape

theorem unravel_inj {s : Shape} {j k : Nat} (hj : j < size s) (hk : k < size s) :
    unravel s j = unravel s k ↔ j = k := by
  refine ⟨fun h => ?_, congrArg _⟩
  rw [← ravel_unravel hj, h, ravel_unravel hk]

/-- The index of an entry before an axis numbers the row of what comes after. -/
theorem take_unravel (s : Shape) (axis number : Nat) :
    (unravel s number).take axis = unravel (s.take axis) (number / size (s.drop axis)) := by
  induction s generalizing axis number with
  | nil => simp [unravel]
  | cons k s ih =>
    cases axis with
    | zero => rfl
    | succ axis =>
      have hsize := size_take_mul_drop s axis
      have hdiv : number / size s = number / size (s.drop axis) / size (s.take axis) := by
        rw [Nat.div_div_eq_div_mul, Nat.mul_comm, hsize]
      have hmod : number % size s / size (s.drop axis) =
          number / size (s.drop axis) % size (s.take axis) := by
        rw [← hsize, Nat.mod_mul_left_div_self]
      simp only [unravel, List.take_succ_cons, List.drop_succ_cons, ih, hdiv, hmod]

/-- The entries that share their location with entry `k`. -/
def peers (shape : Shape) (location : List Nat → List Nat) (k : Fin (size shape)) :
    Finset (Fin (size shape)) :=
  {i | location (shape.unravel i) = location (shape.unravel k)}

end Shape

theorem along_classAxis (n d : Nat) (rest : Shape) :
    Split.along (n :: d :: rest) defaultAxis = some (Split.classAxis n d rest) := by
  show some (Split.mk (Shape.size [n]) d (Shape.size rest) _) = _
  simp [Split.classAxis]

theorem take_index_eq_iff (shape : Shape) (axis : Nat) (j k : Fin (Shape.size shape)) :
    (shape.unravel j).take axis = (shape.unravel k).take axis ↔
      (Split.flattened shape axis).laneOf j = (Split.flattened shape axis).laneOf k := by
  have hrow (i : Fin (Shape.size shape)) :
      i / Shape.size (shape.drop axis) < Shape.size (shape.take axis) := by
    refine Nat.div_lt_of_lt_mul ?_
    rw [Nat.mul_comm, Shape.size_take_mul_drop]
    exact i.isLt
  rw [Shape.take_unravel, Shape.take_unravel, Shape.unravel_inj (hrow j) (hrow k), Fin.ext_iff]
  simp [Split.laneOf, Split.flattened, Nat.mod_one]

theorem eraseIdx_index (n d : Nat) (rest : Shape) (k : Fin (Shape.size (n :: d :: rest))) :
    (Shape.unravel (n :: d :: rest) k).eraseIdx 1 =
      Shape.unravel (n :: rest) ((Split.classAxis n d rest).laneOf k) := by
  let s := Split.classAxis n d rest
  rw [← location_entry (s.laneOf k) (s.classOf k), s.entry_laneOf_classOf]

theorem eraseIdx_index_eq_iff (n d : Nat) (rest : Shape) (j k : Fin (Shape.size (n :: d :: rest))) :
    (Shape.unravel (n :: d :: rest) j).eraseIdx 1 = (Shape.unravel (n :: d :: rest) k).eraseIdx 1 ↔
      (Split.classAxis n d rest).laneOf j = (Split.classAxis n d rest).laneOf k := by
  rw [eraseIdx_index, eraseIdx_index, Fin.ext_iff]
  exact Shape.unravel_inj (Fin.isLt _) (Fin.isLt _)

namespace Split

variable {shape : Shape} {s : Split (Shape.size shape)} {location : List Nat → List Nat}

/-- Entries share a location exactly if they are in one lane. -/
def LocatedBy (s : Split (Shape.size shape)) (location : List Nat → List Nat) : Prop :=
  ∀ j k : Fin (Shape.size shape),
    location (shape.unravel j) = location (shape.unravel k) ↔ s.laneOf j = s.laneOf k

theorem flattened_locatedBy (shape : Shape) (axis : Nat) :
    (flattened shape axis).LocatedBy (List.take axis) :=
  take_index_eq_iff shape axis

theorem classAxis_locatedBy (n d : Nat) (rest : Shape) :
    @LocatedBy (n :: d :: rest) (classAxis n d rest) (List.eraseIdx · 1) :=
  eraseIdx_index_eq_iff n d rest

namespace LocatedBy

theorem location_entry (h : s.LocatedBy location) (l : Fin s.count) (c c' : Fin s.classes) :
    location (shape.unravel (s.entry l c)) = location (shape.unravel (s.entry l c')) := by
  rw [h, s.laneOf_entry, s.laneOf_entry]

theorem mem_peers_iff (h : s.LocatedBy location) (i : Fin (Shape.size shape)) (l : Fin s.count)
    (c : Fin s.classes) : i ∈ shape.peers location (s.entry l c) ↔ s.laneOf i = l := by
  simp [Shape.peers, h i]

/-- **A sum over the entries at a location is a sum over the classes of a lane.** -/
theorem sum_peers {M : Type} [AddCommMonoid M] (h : s.LocatedBy location) (l : Fin s.count)
    (c : Fin s.classes) (f : Fin (Shape.size shape) → M) :
    ∑ i ∈ shape.peers location (s.entry l c), f i = ∑ j, f (s.entry l j) := by
  symm
  apply Finset.sum_bij fun j _ => s.entry l j
  · intro j _
    rw [h.mem_peers_iff, s.laneOf_entry]
  · intro j _ j' _ hentry
    rw [← s.classOf_entry l j, hentry, s.classOf_entry]
  · intro i hi
    rw [h.mem_peers_iff] at hi
    subst hi
    exact ⟨s.classOf i, Finset.mem_univ _, s.entry_laneOf_classOf i⟩
  · intro j _
    rfl

end LocatedBy

end Split

/-! ## Agreement -/

section Agreement

variable {α : Type} {shape : Shape} {places : List Nat → Prop}

/-- Two tensors of one shape have the same entries at the given places. -/
def Tensor.AgreeOn (places : List Nat → Prop) (x y : Tensor α) : Prop :=
  x.shape = y.shape ∧ ∀ index, x.shape.Contains index → places index → x.at? index = y.at? index

theorem agreeOn_iff {x y : Vector α (Shape.size shape)} :
    Tensor.AgreeOn places ⟨shape, x⟩ ⟨shape, y⟩ ↔
      ∀ k : Fin (Shape.size shape), places (shape.unravel k) → x.get k = y.get k := by
  have hat (z : Vector α (Shape.size shape)) (k : Fin (Shape.size shape)) :
      Tensor.at? ⟨shape, z⟩ (shape.unravel k) = some (z.get k) :=
    Tensor.at?_index ⟨shape, z⟩ k
  have hall := Shape.forall_contains_iff (s := shape)
    (P := fun index => places index → Tensor.at? ⟨shape, x⟩ index = Tensor.at? ⟨shape, y⟩ index)
  simp only [hat, Option.some_inj] at hall
  rw [Tensor.AgreeOn, ← hall]
  exact and_iff_right rfl

namespace Split

variable {s : Split (Shape.size shape)}

theorem lanes_congr {x y : Vector α (Shape.size shape)}
    (hxy : Tensor.AgreeOn places ⟨shape, x⟩ ⟨shape, y⟩) {l : Fin s.count}
    (hl : ∀ c, places (shape.unravel (s.entry l c))) : (s.lanes x).get l = (s.lanes y).get l := by
  apply ext_get
  intro c
  rw [s.get_lanes, s.get_lanes]
  exact agreeOn_iff.mp hxy _ (hl c)

theorem agreeOn_join {b b' : Vector (Vector α s.classes) s.count}
    (hb : ∀ l c, places (shape.unravel (s.entry l c)) → b.get l = b'.get l) :
    Tensor.AgreeOn places ⟨shape, s.join b⟩ ⟨shape, s.join b'⟩ := by
  refine agreeOn_iff.mpr fun k hk => ?_
  rw [← s.entry_laneOf_classOf k] at hk
  rw [s.get_join, s.get_join, hb _ _ hk]

end Split

end Agreement

end CrossEntropy
