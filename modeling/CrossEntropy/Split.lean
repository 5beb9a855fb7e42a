import CrossEntropy.Tensor

/-!
# Distributions inside a tensor

The entries of a tensor seen as distributions over classes: `outer * inner` lanes of `classes`
entries each. The entry of class `c` in lane `(o, i)` has number `(o * classes + c) * inner + i`.

* `Split`: such a view of a number of entries;
* `Split.flattened`: everything from an axis on is one class index, as one row per lane;
* `Split.along`: one axis holds the classes;
* `Split.lanes`, `Split.join`: the lanes of a vector of entries, and the entries of lanes;
* **`Split.lanes_join`, `Split.join_lanes`**: the two undo each other.
-/

namespace CrossEntropy

/-- Splits `shape` at `axis` into the numbers of rows and classes. -/
def flattenedDimensions (shape : Shape) (axis : Nat) : Except ShapeError (Nat × Nat) :=
  if shape.length < axis then .error (.axisOutOfRange axis shape.length)
  else if Shape.size (shape.drop axis) = 0 then .error (.noClasses shape)
  else .ok (Shape.size (shape.take axis), Shape.size (shape.drop axis))

/-- A view of `size` entries as lanes of `classes` entries. -/
structure Split (size : Nat) where
  outer : Nat
  classes : Nat
  inner : Nat
  size_eq : size = outer * (classes * inner)

namespace Split

variable {α : Type} {size : Nat}

/-- The number of lanes. -/
abbrev count (s : Split size) : Nat := s.outer * s.inner

/-- Rows of everything from `axis` on. -/
def flattened (shape : Shape) (axis : Nat) : Split (Shape.size shape) where
  outer := Shape.size (shape.take axis)
  classes := Shape.size (shape.drop axis)
  inner := 1
  size_eq := by rw [Nat.mul_one, Shape.size_take_mul_drop]

/-- Rows of everything from `axis` on, if the axis exists and the rows have entries. -/
def rows (shape : Shape) (axis : Nat) : Except ShapeError (Split (Shape.size shape)) := do
  let _ ← flattenedDimensions shape axis
  return flattened shape axis

/-- Lanes along the second dimension, the classes of a batch. -/
def classAxis (n d : Nat) (rest : Shape) : Split (Shape.size (n :: d :: rest)) where
  outer := n
  classes := d
  inner := Shape.size rest
  size_eq := rfl

/-- Lanes along `axis`, if there is such a dimension. -/
def along (shape : Shape) (axis : Nat) : Option (Split (Shape.size shape)) :=
  match h : shape.drop axis with
  | [] => none
  | d :: after => some ⟨Shape.size (shape.take axis), d, Shape.size after, by
      rw [← Shape.size_take_mul_drop shape axis, h]; rfl⟩

/-! ## Entries and lanes -/

theorem entry_lt {n d m l c : Nat} (hl : l < n * m) (hc : c < d) :
    (l / m * d + c) * m + l % m < n * (d * m) := by
  have hm : 0 < m := Nat.pos_of_ne_zero (by rintro rfl; simp at hl)
  have hq : l / m < n := Nat.div_lt_of_lt_mul (by rwa [Nat.mul_comm])
  have hr : l % m < m := Nat.mod_lt _ hm
  calc (l / m * d + c) * m + l % m
      < (l / m * d + c) * m + m := by omega
    _ = (l / m * d + c + 1) * m := by rw [Nat.add_mul _ 1, Nat.one_mul]
    _ ≤ (l / m + 1) * d * m := Nat.mul_le_mul_right _ (by rw [Nat.add_mul]; omega)
    _ ≤ n * d * m := Nat.mul_le_mul_right _ (Nat.mul_le_mul_right _ hq)
    _ = n * (d * m) := Nat.mul_assoc ..

theorem lane_lt {n d m k : Nat} (hk : k < n * (d * m)) :
    k / (d * m) * m + k % m < n * m := by
  have hdm : 0 < d * m := Nat.pos_of_ne_zero fun h => by simp [h] at hk
  have hm : 0 < m := Nat.pos_of_mul_pos_left hdm
  have hq : k / (d * m) < n := Nat.div_lt_of_lt_mul (by rwa [Nat.mul_comm])
  have hr : k % m < m := Nat.mod_lt _ hm
  calc k / (d * m) * m + k % m
      < k / (d * m) * m + m := by omega
    _ = (k / (d * m) + 1) * m := by rw [Nat.add_mul, Nat.one_mul]
    _ ≤ n * m := Nat.mul_le_mul_right _ hq

theorem class_lt {n d m k : Nat} (hk : k < n * (d * m)) : k / m % d < d :=
  Nat.mod_lt _ (Nat.pos_of_ne_zero fun h => by simp [h] at hk)

/-- The number of the entry of class `c` in lane `l`. -/
def entry (s : Split size) (l : Fin s.count) (c : Fin s.classes) : Fin size :=
  ⟨(l / s.inner * s.classes + c) * s.inner + l % s.inner,
    Nat.lt_of_lt_of_eq (entry_lt l.isLt c.isLt) s.size_eq.symm⟩

/-- The lane that holds entry `k`. -/
def laneOf (s : Split size) (k : Fin size) : Fin s.count :=
  ⟨k / (s.classes * s.inner) * s.inner + k % s.inner,
    lane_lt (Nat.lt_of_lt_of_eq k.isLt s.size_eq)⟩

/-- The class of entry `k`. -/
def classOf (s : Split size) (k : Fin size) : Fin s.classes :=
  ⟨k / s.inner % s.classes, class_lt (Nat.lt_of_lt_of_eq k.isLt s.size_eq)⟩

theorem quotient_remainder {q m r : Nat} (hr : r < m) :
    (q * m + r) / m = q ∧ (q * m + r) % m = r := by
  have hm : 0 < m := Nat.lt_of_le_of_lt (Nat.zero_le r) hr
  rw [Nat.mul_comm, Nat.mul_add_div hm, Nat.mul_add_mod, Nat.div_eq_of_lt hr,
    Nat.mod_eq_of_lt hr]
  exact ⟨Nat.add_zero q, rfl⟩

theorem inner_pos (s : Split size) (l : Fin s.count) : 0 < s.inner :=
  Nat.pos_of_ne_zero fun h => absurd l.isLt (by simp [count, h])

@[simp] theorem laneOf_entry (s : Split size) (l : Fin s.count) (c : Fin s.classes) :
    s.laneOf (s.entry l c) = l := by
  have hr := Nat.mod_lt l.val (s.inner_pos l)
  obtain ⟨hdiv, hmod⟩ := quotient_remainder (q := l / s.inner * s.classes + c) hr
  apply Fin.ext
  simp only [laneOf, entry]
  rw [hmod, Nat.mul_comm s.classes, ← Nat.div_div_eq_div_mul, hdiv,
    (quotient_remainder c.isLt).1, Nat.div_add_mod']

@[simp] theorem classOf_entry (s : Split size) (l : Fin s.count) (c : Fin s.classes) :
    s.classOf (s.entry l c) = c := by
  have hr := Nat.mod_lt l.val (s.inner_pos l)
  obtain ⟨hdiv, -⟩ := quotient_remainder (q := l / s.inner * s.classes + c) hr
  apply Fin.ext
  simp only [classOf, entry]
  rw [hdiv, (quotient_remainder c.isLt).2]

@[simp] theorem entry_laneOf_classOf (s : Split size) (k : Fin size) :
    s.entry (s.laneOf k) (s.classOf k) = k := by
  have hr := Nat.mod_lt k.val (s.inner_pos (s.laneOf k))
  obtain ⟨hdiv, hmod⟩ := quotient_remainder (q := k / (s.classes * s.inner)) hr
  apply Fin.ext
  simp only [laneOf, classOf, entry]
  rw [hdiv, hmod, Nat.mul_comm s.classes, ← Nat.div_div_eq_div_mul, Nat.div_add_mod',
    Nat.div_add_mod']

/-- The lanes of a vector of entries. -/
@[inline] def lanes (s : Split size) (x : Vector α size) : Vector (Vector α s.classes) s.count :=
  Vector.ofFn fun l => Vector.ofFn fun c => x.get (s.entry l c)

/-- The entries that make up the given lanes. -/
@[inline] def join (s : Split size) (b : Vector (Vector α s.classes) s.count) : Vector α size :=
  Vector.ofFn fun k => (b.get (s.laneOf k)).get (s.classOf k)

private theorem get_ofFn {n : Nat} (f : Fin n → α) (i : Fin n) : (Vector.ofFn f).get i = f i :=
  Vector.getElem_ofFn i.isLt

theorem get_lanes (s : Split size) (x : Vector α size) (l : Fin s.count)
    (c : Fin s.classes) : ((s.lanes x).get l).get c = x.get (s.entry l c) := by
  rw [lanes, get_ofFn, get_ofFn]

theorem get_join (s : Split size) (b : Vector (Vector α s.classes) s.count) (k : Fin size) :
    (s.join b).get k = (b.get (s.laneOf k)).get (s.classOf k) := by
  rw [join, get_ofFn]

/-- **The lanes of joined lanes are those lanes.** -/
theorem lanes_join (s : Split size) (b : Vector (Vector α s.classes) s.count) :
    s.lanes (s.join b) = b := by
  refine Vector.ext fun l hl => Vector.ext fun c hc => ?_
  have h := s.get_lanes (s.join b) ⟨l, hl⟩ ⟨c, hc⟩
  rwa [get_join, laneOf_entry, classOf_entry] at h

/-- **Joining the lanes of a vector gives it back.** -/
theorem join_lanes (s : Split size) (x : Vector α size) : s.join (s.lanes x) = x := by
  refine Vector.ext fun k hk => ?_
  have h := s.get_join (s.lanes x) ⟨k, hk⟩
  rwa [get_lanes, entry_laneOf_classOf] at h

end Split

end CrossEntropy
