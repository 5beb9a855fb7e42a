import CrossEntropy.Proofs.Lane

/-!
# Rows and pixels as lanes

The lanes along the class axis of a matrix are its rows, those of a batch of images its pixels.

* `rowLane`, `pixelLane`: the lane of a row and of a pixel;
* `foldl_rowLane`, `foldl_pixelLane`: folds over lanes as folds over rows and pixels;
* **`get_entry_rowLane`, `get_entry_pixelLane`**: the entries of these lanes, by their indices;
* `byClass_join`, `byChannel_join`: the entries of joined lanes;
* `unravel_entry`, `location_entry`, `class_entry`: the index of an entry;
* `get_softmax_rowLane`, `get_softmax_pixelLane`: softmax of these lanes.
-/

namespace CrossEntropy

variable {α A : Type} [Scalar A] {n d h w : Nat}

/-- The lane of a row. -/
def rowLane (i : Fin n) : Fin (Split.classAxis n d []).count :=
  i.cast (Nat.mul_one n).symm

/-- The lane of a pixel. -/
def pixelLane (i : Fin n) (y : Fin h) (v : Fin w) : Fin (Split.classAxis n d [h, w]).count :=
  ⟨(i * h + y) * w + v, by
    simpa [Split.classAxis] using Reference.pixel_lt i.isLt y.isLt v.isLt⟩

theorem exists_pixelLane (l : Fin (Split.classAxis n d [h, w]).count) :
    ∃ (i : Fin n) (y : Fin h) (v : Fin w), pixelLane i y v = l := by
  have hl : l.val < n * h * w := by
    simpa [Split.classAxis, Nat.mul_assoc] using l.isLt
  have hw : 0 < w := Nat.pos_of_mul_pos_left (Nat.zero_lt_of_lt hl)
  have hlw : l / w < n * h := Nat.div_lt_of_lt_mul (by rwa [Nat.mul_comm])
  have hh : 0 < h := Nat.pos_of_mul_pos_left (Nat.zero_lt_of_lt hlw)
  refine ⟨⟨l / w / h, Nat.div_lt_of_lt_mul (by rwa [Nat.mul_comm])⟩,
    ⟨l / w % h, Nat.mod_lt _ hh⟩, ⟨l % w, Nat.mod_lt _ hw⟩, Fin.ext ?_⟩
  simp only [pixelLane, Nat.div_add_mod']

theorem foldl_rowLane {β : Type} (f : β → Fin (Split.classAxis n d []).count → β) (b : β) :
    Fin.foldl _ f b = Fin.foldl n (fun b i => f b (rowLane (d := d) i)) b :=
  congrFun (Fin.foldl_congr (Nat.mul_one n) f) b

theorem foldl_pixelLane {β : Type} (f : β → Fin (Split.classAxis n d [h, w]).count → β) (b : β) :
    Fin.foldl _ f b = Reference.foldPixels (fun b i y v => f b (pixelLane (d := d) i y v)) b := by
  have hcount : (Split.classAxis n d [h, w]).count = n * (h * w) := by
    simp [Split.classAxis]
  rw [Fin.foldl_congr hcount, foldPixels_eq]
  rfl

theorem get_entry_rowLane (x : Vector α (Shape.size [n, d])) (i : Fin n) (c : Fin d) :
    x.get ((Split.classAxis n d []).entry (rowLane i) c) = Reference.byClass x i c :=
  congrArg x.get (Fin.ext ((Split.classAxis n d []).entry_of_rows rfl (rowLane i) c))

theorem entry_pixelLane (i : Fin n) (c : Fin d) (y : Fin h) (v : Fin w) :
    ((Split.classAxis n d [h, w]).entry (pixelLane i y v) c).val =
      ((i * d + c) * h + y) * w + v := by
  have hin : y.val * w + v < h * w := Reference.row_lt y.isLt v.isLt
  have hlane : (i * h + y) * w + v = i * (h * w) + (y * w + v) := by ring
  obtain ⟨hdiv, hmod⟩ := Split.quotient_remainder (q := i) hin
  simp only [Split.entry, Split.classAxis, pixelLane, Shape.size_cons, Shape.size_nil, Nat.mul_one,
    hlane, hdiv, hmod]
  ring

theorem get_entry_pixelLane (x : Vector α (Shape.size [n, d, h, w])) (i : Fin n) (c : Fin d)
    (y : Fin h) (v : Fin w) :
    x.get ((Split.classAxis n d [h, w]).entry (pixelLane i y v) c) =
      Reference.byChannel x i c y v :=
  congrArg x.get (Fin.ext (entry_pixelLane i c y v))

theorem byClass_join {m : Nat} (b : Vector (Vector α d) (Split.classAxis m d []).count) (i : Fin m)
    (c : Fin d) :
    Reference.byClass ((Split.classAxis m d []).join b) i c = (b.get (rowLane i)).get c :=
  (get_entry_rowLane _ i c).symm.trans ((Split.classAxis m d []).get_join_entry b (rowLane i) c)

theorem byChannel_join (b : Vector (Vector α d) (Split.classAxis n d [h, w]).count) (i : Fin n)
    (c : Fin d) (y : Fin h) (v : Fin w) :
    Reference.byChannel ((Split.classAxis n d [h, w]).join b) i c y v =
      (b.get (pixelLane i y v)).get c :=
  (get_entry_pixelLane _ i c y v).symm.trans
    ((Split.classAxis n d [h, w]).get_join_entry b (pixelLane i y v) c)

theorem ext_rows {m : Nat} {x y : Vector α (Shape.size [m, d])}
    (hrow : ∀ k, Reference.byClass x k = Reference.byClass y k) : x = y := by
  refine (Split.classAxis m d []).ext_entry fun l c => ?_
  have hentry (z : Vector α (Shape.size [m, d])) :
      z.get ((Split.classAxis m d []).entry l c) = Reference.byClass z (l.cast (Nat.mul_one m)) c :=
    get_entry_rowLane z (l.cast (Nat.mul_one m)) c
  rw [hentry, hentry, hrow]

/-! ## Indices of entries -/

/-- The second index of an entry is its class, the others are its location. -/
theorem unravel_entry {n d : Nat} {rest : Shape} (l : Fin (Split.classAxis n d rest).count)
    (c : Fin d) :
    Shape.unravel (n :: d :: rest) ((Split.classAxis n d rest).entry l c) =
      l / Shape.size rest :: c :: Shape.unravel rest (l % Shape.size rest) := by
  have hrest : 0 < Shape.size rest := (Split.classAxis n d rest).inner_pos l
  have hr : l % Shape.size rest < Shape.size rest := Nat.mod_lt _ hrest
  have hentry : ((Split.classAxis n d rest).entry l c).val =
      l / Shape.size rest * (d * Shape.size rest) +
        (c * Shape.size rest + l % Shape.size rest) := by
    simp only [Split.entry, Split.classAxis]
    ring
  obtain ⟨hdiv, hmod⟩ := Split.quotient_remainder (q := l / Shape.size rest)
    (Reference.row_lt c.isLt hr)
  obtain ⟨hdiv', hmod'⟩ := Split.quotient_remainder (q := c) hr
  refine (congrArg (Shape.unravel (n :: d :: rest)) hentry).trans ?_
  simp only [Shape.unravel, Shape.size_cons, hdiv, hmod, hdiv', hmod']

theorem location_entry {n d : Nat} {rest : Shape} (l : Fin (Split.classAxis n d rest).count)
    (c : Fin d) :
    (Shape.unravel (n :: d :: rest) ((Split.classAxis n d rest).entry l c)).eraseIdx 1 =
      Shape.unravel (n :: rest) l := by
  rw [unravel_entry]
  rfl

theorem insertIdx_location {n d : Nat} {rest : Shape} (l : Fin (Split.classAxis n d rest).count)
    (c : Fin d) :
    (Shape.unravel (n :: rest) l).insertIdx 1 c.val =
      Shape.unravel (n :: d :: rest) ((Split.classAxis n d rest).entry l c) := by
  rw [unravel_entry]
  rfl

theorem class_entry {n d : Nat} {rest : Shape} (l : Fin (Split.classAxis n d rest).count)
    (c : Fin d) :
    (Shape.unravel (n :: d :: rest) ((Split.classAxis n d rest).entry l c)).getD 1 0 = c := by
  rw [unravel_entry]
  rfl

theorem location_append_class {n d : Nat} (l : Fin (Split.classAxis n d []).count) (c : Fin d) :
    let index := Shape.unravel [n, d] ((Split.classAxis n d []).entry l c)
    index.eraseIdx 1 ++ [index.getD 1 0] = index := by
  simp only [unravel_entry]
  rfl

/-! ## Probabilities -/

theorem get_softmax_rowLane (x : Vector A (Shape.size [n, d])) (i : Fin n) (c : Fin d) :
    ((softmaxLanes ((Split.classAxis n d []).lanes x)).get (rowLane i)).get c =
      Reference.probability (Reference.byClass x i) c :=
  ((Split.classAxis n d []).get_softmaxLanes_lanes x (rowLane i) c).trans
    (congrArg (fun row => Reference.probability row c) (funext (get_entry_rowLane x i)))

theorem get_softmax_pixelLane (x : Vector A (Shape.size [n, d, h, w])) (i : Fin n) (y : Fin h)
    (v : Fin w) (c : Fin d) :
    ((softmaxLanes ((Split.classAxis n d [h, w]).lanes x)).get (pixelLane i y v)).get c =
      Reference.probability (fun c => Reference.byChannel x i c y v) c :=
  ((Split.classAxis n d [h, w]).get_softmaxLanes_lanes x (pixelLane i y v) c).trans
    (congrArg (fun pixel => Reference.probability pixel c)
      (funext fun c => get_entry_pixelLane x i c y v))

end CrossEntropy
