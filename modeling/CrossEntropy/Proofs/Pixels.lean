import CrossEntropy.Proofs.LossReference

/-!
# Pixels

The pixels of a batch of images as a list, and the matrix whose rows are their class vectors.

* `pixels`, `countedPixels`: all pixels, and those whose label is not the ignored one;
* **`foldPixels_eq_counted`**: a fold that passes over ignored pixels is one over the counted ones;
* `rowsAt`, `entriesAt`: the matrix and the vector of what is at some pixels;
* `rowsAt_softmax`, `rowsAt_softmaxImages`: softmax of pixels is softmax of rows.
-/

namespace CrossEntropy

variable {α β : Type} {n d h w : Nat}

/-! ## Lists of pixels -/

/-- A place in a batch of images: the image, the row in it and the column. -/
abbrev Pixel (n h w : Nat) := Fin n × Fin h × Fin w

/-- The pixels of a batch, in row-major order. -/
def pixels (n h w : Nat) : List (Pixel n h w) :=
  (List.finRange n).flatMap fun i => (List.finRange h).flatMap fun y =>
    (List.finRange w).map fun v => (i, y, v)

theorem mem_pixels (p : Pixel n h w) : p ∈ pixels n h w := by
  simp [pixels]

theorem foldPixels_eq_foldl (f : β → Pixel n h w → β) (b : β) :
    Reference.foldPixels (fun b i y v => f b (i, y, v)) b = (pixels n h w).foldl f b := by
  unfold Reference.foldPixels pixels
  simp only [Fin.foldl_eq_finRange_foldl, List.foldl_flatMap, List.foldl_map]

/-- The entry at a pixel. -/
def atPixel (x : Vector α (Shape.size [n, h, w])) (p : Pixel n h w) : α :=
  Reference.byPixel x p.1 p.2.1 p.2.2

/-- The entries at a pixel, by class. -/
def classesAt (x : Vector α (Shape.size [n, d, h, w])) (p : Pixel n h w) (c : Fin d) : α :=
  Reference.byChannel x p.1 c p.2.1 p.2.2

/-- The pixels with a label other than the ignored one, in row-major order. -/
def countedPixels (labels : Vector Int32 (Shape.size [n, h, w])) : List (Pixel n h w) :=
  (pixels n h w).filter fun p => atPixel labels p ≠ ignoredLabel

variable {labels : Vector Int32 (Shape.size [n, h, w])}

theorem mem_countedPixels {p : Pixel n h w} :
    p ∈ countedPixels labels ↔ atPixel labels p ≠ ignoredLabel := by
  simp [countedPixels, mem_pixels]

/-- A fold that passes over ignored pixels is one over the counted ones. -/
theorem foldPixels_eq_counted {f : β → Pixel n h w → β}
    (hskip : ∀ b p, atPixel labels p = ignoredLabel → f b p = b) (b : β) :
    Reference.foldPixels (fun b i y v => f b (i, y, v)) b = Fin.foldl
      (countedPixels labels).length (fun b k => f b ((countedPixels labels).get k)) b := by
  rw [foldl_get, foldPixels_eq_foldl, countedPixels, List.foldl_filter]
  congr 1
  funext b p
  by_cases hp : atPixel labels p = ignoredLabel
  · simp [hp, hskip b p hp]
  · simp [hp]

/-! ## Matrices of pixels -/

section Matrix

variable (places : List (Pixel n h w))

/-- The class vectors at the given places, as the rows of a matrix. -/
def rowsAt (x : Vector α (Shape.size [n, d, h, w])) : Vector α (Shape.size [places.length, d]) :=
  let row (l : Fin (Split.classAxis places.length d []).count) : Vector α d :=
    Vector.ofFn (classesAt x (places.get (l.cast (Nat.mul_one _))))
  (Split.classAxis places.length d []).join (Vector.ofFn row)

/-- The entries at the given places. -/
def entriesAt (x : Vector α (Shape.size [n, h, w])) : Vector α (Shape.size [places.length]) :=
  Vector.ofFn fun k => atPixel x (places.get (k.cast (Nat.mul_one _)))

theorem byClass_rowsAt (x : Vector α (Shape.size [n, d, h, w])) (k : Fin places.length) :
    Reference.byClass (rowsAt places x) k = classesAt x (places.get k) := by
  funext c
  refine (byClass_join _ k c).trans ?_
  refine (congrArg (Vector.get · c) (Vector.get_ofFn ..)).trans ?_
  exact Vector.get_ofFn ..

theorem rowsAt_join {b : Vector (Vector α d) (Split.classAxis n d [h, w]).count}
    {rows : Vector (Vector α d) (Split.classAxis places.length d []).count}
    (hrows : ∀ k c, ((rows.get (rowLane (d := d) k)).get c =
      (b.get (pixelLane (places.get k).1 (places.get k).2.1 (places.get k).2.2)).get c)) :
    rowsAt places ((Split.classAxis n d [h, w]).join b) =
      (Split.classAxis places.length d []).join rows := by
  refine ext_rows fun k => funext fun c => ?_
  rw [byClass_rowsAt, byClass_join, hrows]
  exact byChannel_join b _ c _ _

variable {A : Type} [Scalar A]

theorem rowsAt_softmax (x : Vector A (Shape.size [n, d, h, w])) :
    rowsAt places ((Split.classAxis n d [h, w]).join
        (softmaxLanes ((Split.classAxis n d [h, w]).lanes x))) =
      (Split.classAxis places.length d []).join
        (softmaxLanes ((Split.classAxis places.length d []).lanes (rowsAt places x))) := by
  refine rowsAt_join places fun k c => ?_
  refine (get_softmax_rowLane (rowsAt places x) k c).trans ?_
  rw [byClass_rowsAt]
  exact (get_softmax_pixelLane x _ _ _ c).symm

theorem rowsAt_softmaxImages (x : Vector A (Shape.size [n, d, h, w])) :
    rowsAt places (Reference.softmaxImages (Reference.byChannel x)) =
      Reference.softmaxMatrix (Reference.byClass (rowsAt places x)) := by
  rw [softmaxImages_eq_tensor, softmaxMatrix_eq_tensor, rowsAt_softmax]

end Matrix

end CrossEntropy
