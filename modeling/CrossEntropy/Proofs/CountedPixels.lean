import CrossEntropy.Proofs.ChainRule
import CrossEntropy.Proofs.Pixels

/-!
# Pixels that count

Without weights, the loss of pixels is the loss of rows for the matrix of the pixels that are not
ignored. The two count and fold in ways of their own: over all pixels with a test for each against
over all rows, and with gradients that are scaled before or after the class is taken off.

* `exists_classes`: the labels of the counted pixels are classes;
* `foldPixels_marks`, `pixelLoss_eq_labelLoss`: total losses and weights of the references;
* `totals_eq`, `rowsAt_gradient`: average losses and gradients of the operations;
* `SameProbabilities`, `SameLoss`: what pixels and rows have in common;
* **`pixels_eq_countedRows`**: they do so for all labels that are accepted.
-/

namespace CrossEntropy

open Precision

variable {α β : Type} {n d h w : Nat} {labels : Vector Int32 (Shape.size [n, h, w])}

/-! ## Readings of the counted pixels -/

section Readings

variable {marks : Vector (Option (Fin d)) (Shape.size [n, h, w])}
  (hread : readLabels d (markOf? d) ⟨[n, h, w], labels⟩ = .ok marks)

include hread

theorem markOf?_atPixel (p : Pixel n h w) : markOf? d (atPixel labels p) = some (atPixel marks p) :=
  read_get hread _

theorem mark_of_ignored {p : Pixel n h w} (hp : atPixel labels p = ignoredLabel) :
    atPixel marks p = none := by
  have hmark := markOf?_atPixel hread p
  rw [markOf?_eq_some_none_iff.mpr hp, Option.some_inj] at hmark
  exact hmark.symm

theorem exists_mark_of_counted {p : Pixel n h w} (hp : p ∈ countedPixels labels) :
    ∃ c, atPixel marks p = some c ∧ classOf? d (atPixel labels p) = some c := by
  have hmark := markOf?_atPixel hread p
  cases hm : atPixel marks p with
  | none =>
    rw [hm, markOf?_eq_some_none_iff] at hmark
    exact absurd hmark (mem_countedPixels.mp hp)
  | some c =>
    rw [hm, markOf?_eq_some_some_iff] at hmark
    exact ⟨c, rfl, classOf?_eq_some_iff.mpr hmark⟩

/-- The labels of the counted pixels can be read as classes, which are their marks. -/
theorem exists_classes :
    ∃ classes : Vector (Fin d) (Shape.size [(countedPixels labels).length]),
      readLabels d (classOf? d) ⟨[(countedPixels labels).length],
        entriesAt (countedPixels labels) labels⟩ = .ok classes ∧
      ∀ k, atPixel marks ((countedPixels labels).get k) = some (Reference.byRow classes k) := by
  -- what is read as a mark and is not ignored is read as a class
  have hlabel (k : Fin (Shape.size [(countedPixels labels).length])) :
      ∃ c, atPixel marks ((countedPixels labels).get (k.cast (Nat.mul_one _))) = some c ∧
        classOf? d ((entriesAt (countedPixels labels) labels).get k) = some c := by
    rw [entriesAt, Vector.get_ofFn]
    exact exists_mark_of_counted hread (List.get_mem ..)
  obtain ⟨classes, hclasses, hget⟩ | ⟨k, hnone, -⟩ := readLabels_cases d (classOf? d)
    ⟨[(countedPixels labels).length], entriesAt (countedPixels labels) labels⟩
  · refine ⟨classes, hclasses, fun k => ?_⟩
    obtain ⟨c, hmark, hclass⟩ := hlabel (k.cast (Nat.mul_one _).symm)
    exact hmark.trans (hclass.symm.trans (hget _))
  · obtain ⟨c, -, hclass⟩ := hlabel k
    cases hnone.symm.trans hclass

end Readings

/-! ## Losses -/

variable (labels) in
/-- The class vectors of the counted pixels, as the rows of a matrix. -/
abbrev countedRows (x : Vector α (Shape.size [n, d, h, w])) : Tensor α :=
  ⟨[(countedPixels labels).length, d], rowsAt (countedPixels labels) x⟩

variable (labels) in
/-- The labels of the counted pixels. -/
abbrev countedLabels : Tensor Int32 :=
  ⟨[(countedPixels labels).length], entriesAt (countedPixels labels) labels⟩

section Losses

variable {A : Type} [Scalar A] {marks : Vector (Option (Fin d)) (Shape.size [n, h, w])}
  {classes : Vector (Fin d) (Shape.size [(countedPixels labels).length])}
  (hread : readLabels d (markOf? d) ⟨[n, h, w], labels⟩ = .ok marks)
  (hclasses : ∀ k, atPixel marks ((countedPixels labels).get k) = some (Reference.byRow classes k))

include hread hclasses

theorem foldPixels_marks (f : β → Pixel n h w → Fin d → β) (b : β) :
    Reference.foldPixels (fun b i y v => match Reference.byPixel marks i y v with
      | none => b
      | some c => f b (i, y, v) c) b =
      Fin.foldl (countedPixels labels).length
        (fun b k => f b ((countedPixels labels).get k) (Reference.byRow classes k)) b := by
  refine (foldPixels_eq_counted (f := fun b p => match atPixel marks p with
    | none => b
    | some c => f b p c) (fun b p hp => ?_) b).trans (foldl_congr (fun b k => ?_) b)
  · rw [mark_of_ignored hread hp]
  · rw [hclasses]

theorem countedPixels_mass :
    Reference.foldPixels (fun mass i y v => match Reference.byPixel marks i y v with
      | none => mass
      | some _ => mass + 1) 0 = (Reference.rowCount (countedPixels labels).length : A) :=
  foldPixels_marks hread hclasses (fun mass _ _ => mass + 1) 0

theorem pixelLoss_eq_labelLoss (hone : ∀ a : A, a * 1 = a)
    (x : Vector A (Shape.size [n, d, h, w])) :
    Reference.pixelLoss (Reference.byChannel x) (Reference.byPixel marks) (fun _ _ _ => 1) =
      Reference.labelLoss (Reference.byClass (rowsAt (countedPixels labels) x))
        (Reference.byRow classes) := by
  refine congrArg₂ (· / ·) ?_ (countedPixels_mass hread hclasses)
  refine (foldPixels_marks hread hclasses (fun loss p c =>
    loss - Reference.logarithm (Reference.probability (classesAt x p) c) * 1) 0).trans ?_
  refine foldl_congr (fun loss k => ?_) 0
  rw [hone, byClass_rowsAt]

end Losses

/-! ## Both operations and both references -/

section Statement

variable {S : Type} [Scalar S] {F : Type} [ExactScalar F]

variable (labels) in
/-- The probabilities of the counted pixels are those of the counted rows. -/
structure SameProbabilities (D : Type) [Scalar D] [Precision S D]
    (x : Vector S (Shape.size [n, d, h, w])) : Prop where
  operation : ∃ p loss rowLoss,
    (softmaxWithLoss (.pixels ⟨[n, h, w], labels⟩ none)).forward ⟨[n, d, h, w], x⟩ =
      .ok [⟨[n, d, h, w], p⟩, loss] ∧
    (softmaxWithLoss (.labels (countedLabels labels))).forward (countedRows labels x) =
      .ok [countedRows labels p, rowLoss]
  reference : ∃ p loss rowLoss,
    Reference.spatialSoftmaxCrossEntropy ⟨[n, d, h, w], x⟩ ⟨[n, h, w], labels⟩ none =
      .ok (⟨[n, d, h, w], p⟩, loss) ∧
    Reference.softmaxCrossEntropy (countedRows labels x) (countedLabels labels) =
      .ok (countedRows labels p, rowLoss)

variable (labels) in
/-- The average loss of the pixels and its gradient are those of the counted rows. -/
structure SameLoss (x : Vector F (Shape.size [n, d, h, w])) : Prop where
  operation : ∃ p loss,
    (softmaxWithLoss (.pixels ⟨[n, h, w], labels⟩ none)).forward ⟨[n, d, h, w], x⟩ =
      .ok [⟨[n, d, h, w], p⟩, loss] ∧
    (softmaxWithLoss (.labels (countedLabels labels))).forward (countedRows labels x) =
      .ok [countedRows labels p, loss]
  reference : ∃ p loss,
    Reference.spatialSoftmaxCrossEntropy ⟨[n, d, h, w], x⟩ ⟨[n, h, w], labels⟩ none =
      .ok (⟨[n, d, h, w], p⟩, loss) ∧
    Reference.softmaxCrossEntropy (countedRows labels x) (countedLabels labels) =
      .ok (countedRows labels p, loss)
  gradient : ∀ outGradient g, onlyEntry outGradient = .ok g → ∃ gradient,
    (softmaxWithLoss (.pixels ⟨[n, h, w], labels⟩ none)).backward outGradient ⟨[n, d, h, w], x⟩ 1 =
      .ok ⟨[n, d, h, w], gradient⟩ ∧
    (softmaxWithLoss (.labels (countedLabels labels))).backward outGradient
      (countedRows labels x) 1 = .ok (countedRows labels gradient) ∧
    ∀ p, p ∉ countedPixels labels → ∀ c, classesAt gradient p c = 0

end Statement

section Outputs

variable {S D : Type} [Scalar S] [Scalar D] [Precision S D] {m : Nat}
  {given : Vector Int32 (Shape.size [m])} {classes : Vector (Fin d) (Shape.size [m])}
  {marks : Vector (Option (Fin d)) (Shape.size [n, h, w])} (hd : d ≠ 0)
  (hread : readLabels d (markOf? d) ⟨[n, h, w], labels⟩ = .ok marks)
  (hrows : readLabels d (classOf? d) ⟨[m], given⟩ = .ok classes)
  (x : Vector S (Shape.size [n, d, h, w])) (rows : Vector S (Shape.size [m, d]))

/-- Total loss and weight of pixels that weigh one each. -/
def pixelTotals (marks : Vector (Option (Fin d)) (Shape.size [n, h, w]))
    (x : Vector S (Shape.size [n, d, h, w])) : Totals D :=
  Supervision.totals (softmaxLanes ((Split.classAxis n d [h, w]).lanes x))
    (.pixels (weighMarks marks none))

/-- Total loss and weight of rows. -/
def rowTotals (classes : Vector (Fin d) (Shape.size [m])) (rows : Vector S (Shape.size [m, d])) :
    Totals D :=
  Supervision.totals (softmaxLanes ((Split.classAxis m d []).lanes rows)) (.labels classes)

include hd hread in
theorem fits_pixels :
    Fits (.pixels ⟨[n, h, w], labels⟩ none : Targets S) [n, d, h, w]
      ⟨Split.classAxis n d [h, w], .pixels (weighMarks marks none)⟩ :=
  @Fits.pixels S _ n d h w labels marks none hd hread

include hd hread in
theorem forward_pixels :
    let totals : Totals D := pixelTotals marks x
    (softmaxWithLoss (.pixels ⟨[n, h, w], labels⟩ none)).forward ⟨[n, d, h, w], x⟩ =
      .ok [⟨[n, d, h, w], (Split.classAxis n d [h, w]).join
          (softmaxLanes ((Split.classAxis n d [h, w]).lanes x))⟩,
        Tensor.scalar (narrow (totals.loss / totals.weight))] :=
  forward_eq_ok_iff.mpr ⟨_, fits_pixels hd hread, rfl⟩

include hd hrows in
theorem forward_labels :
    (softmaxWithLoss (.labels ⟨[m], given⟩)).forward ⟨[m, d], rows⟩ =
      .ok [⟨[m, d], (Split.classAxis m d []).join
          (softmaxLanes ((Split.classAxis m d []).lanes rows))⟩,
        Tensor.scalar (narrow ((rowTotals classes rows).loss / (rowTotals classes rows).weight))] :=
  forward_eq_ok_iff.mpr ⟨_, .labels hd hrows, rfl⟩

include hd hread in
theorem sameProbabilities : SameProbabilities labels D x := by
  obtain ⟨classes, hclasses, -⟩ := exists_classes hread
  constructor
  · have hrows := forward_labels hd hclasses (rowsAt (countedPixels labels) x)
    rw [← rowsAt_softmax] at hrows
    exact ⟨_, _, _, forward_pixels hd hread x, hrows⟩
  · have hrows := softmaxCrossEntropy_eq hclasses (rowsAt (countedPixels labels) x)
    rw [← rowsAt_softmaxImages] at hrows
    exact ⟨_, _, _, spatialSoftmaxCrossEntropy_eq hd hread x, hrows⟩

end Outputs

/-! ## Exact arithmetic -/

section Exact

variable {F : Type} [ExactScalar F] {marks : Vector (Option (Fin d)) (Shape.size [n, h, w])}
  {classes : Vector (Fin d) (Shape.size [(countedPixels labels).length])}

theorem totals_eq (hread : readLabels d (markOf? d) ⟨[n, h, w], labels⟩ = .ok marks)
    (hmarks : ∀ k, atPixel marks ((countedPixels labels).get k) = some (Reference.byRow classes k))
    (x : Vector F (Shape.size [n, d, h, w])) :
    let pixels : Totals F := pixelTotals marks x
    let rows : Totals F := rowTotals classes (rowsAt (countedPixels labels) x)
    pixels.weight = rows.weight ∧ pixels.loss / pixels.weight = rows.loss / rows.weight := by
  constructor
  · refine (pixels_weight _ marks none).trans ((foldl_pixelLane (d := d) _ _).trans ?_)
    refine Eq.trans ?_ (ofNat_count_eq _ d).symm
    exact countedPixels_mass hread hmarks
  · refine (pixels_average x marks none).trans ?_
    refine (pixelLoss_eq_labelLoss hread hmarks mul_one x).trans ?_
    exact (labels_average _ classes).symm

theorem classesAt_gradient (x : Vector F (Shape.size [n, d, h, w]))
    (marks : Vector (Option (Fin d)) (Shape.size [n, h, w])) (scale : F) (p : Pixel n h w)
    (c : Fin d) :
    classesAt ((Split.classAxis n d [h, w]).join
        ((Supervision.pixels (weighMarks marks none)).gradient scale
          (softmaxLanes ((Split.classAxis n d [h, w]).lanes x)))) p c =
      scale * (Reference.probability (classesAt x p) c *
          (∑ j, if atPixel marks p = some j then 1 else 0) -
        if atPixel marks p = some c then 1 else 0) := by
  have hp := get_softmax_pixelLane x p.1 p.2.1 p.2.2 c
  have hdemand (j : Fin d) :=
    demand_pixels (F := F) marks none (pixelLane (d := d) p.1 p.2.1 p.2.2) j
  refine (byChannel_join _ p.1 c p.2.1 p.2.2).trans ((get_gradient _ scale _ _ c).trans ?_)
  exact congrArg (scale * ·) (congrArg₂ (· - ·)
    (congrArg₂ (· * ·) hp (Finset.sum_congr rfl fun j _ => hdemand j)) (hdemand c))

theorem byClass_gradient {m : Nat} (rows : Vector F (Shape.size [m, d]))
    (classes : Vector (Fin d) (Shape.size [m])) (scale : F) (k : Fin m) (c : Fin d) :
    Reference.byClass ((Split.classAxis m d []).join
        ((Supervision.labels classes).gradient scale
          (softmaxLanes ((Split.classAxis m d []).lanes rows)))) k c =
      scale * (Reference.probability (Reference.byClass rows k) c *
          (∑ j, if j = Reference.byRow classes k then 1 else 0) -
        if c = Reference.byRow classes k then 1 else 0) := by
  refine (byClass_join _ k c).trans ((get_gradient _ scale _ _ c).trans ?_)
  exact congrArg (fun q => scale * (q * _ - _)) (get_softmax_rowLane rows k c)

theorem rowsAt_gradient
    (hmarks : ∀ k, atPixel marks ((countedPixels labels).get k) = some (Reference.byRow classes k))
    (x : Vector F (Shape.size [n, d, h, w])) (scale : F) :
    rowsAt (countedPixels labels) ((Split.classAxis n d [h, w]).join
        ((Supervision.pixels (weighMarks marks none)).gradient scale
          (softmaxLanes ((Split.classAxis n d [h, w]).lanes x)))) =
      (Split.classAxis (countedPixels labels).length d []).join
        ((Supervision.labels classes).gradient scale (softmaxLanes
          ((Split.classAxis (countedPixels labels).length d []).lanes
            (rowsAt (countedPixels labels) x)))) := by
  refine ext_rows fun k => funext fun c => ?_
  rw [byClass_rowsAt, classesAt_gradient, byClass_gradient, byClass_rowsAt, hmarks]
  simp only [Option.some_inj, eq_comm]

theorem backward_pixels (hd : d ≠ 0)
    (hread : readLabels d (markOf? d) ⟨[n, h, w], labels⟩ = .ok marks)
    (x : Vector F (Shape.size [n, d, h, w])) {outGradient : Tensor F} {g : F}
    (hg : onlyEntry outGradient = .ok g) :
    (softmaxWithLoss (.pixels ⟨[n, h, w], labels⟩ none)).backward outGradient ⟨[n, d, h, w], x⟩ 1 =
      .ok ⟨[n, d, h, w], (Split.classAxis n d [h, w]).join
        ((Supervision.pixels (weighMarks marks none)).gradient (g / (pixelTotals marks x).weight)
          (softmaxLanes ((Split.classAxis n d [h, w]).lanes x)))⟩ := by
  have hf : Fits (S := F) _ (Tensor.shape ⟨[n, d, h, w], x⟩) _ := fits_pixels hd hread
  exact lossBackward_eq hf hg

theorem backward_labels {m : Nat} {given : Vector Int32 (Shape.size [m])}
    {classes : Vector (Fin d) (Shape.size [m])} (hd : d ≠ 0)
    (hread : readLabels d (classOf? d) ⟨[m], given⟩ = .ok classes)
    (rows : Vector F (Shape.size [m, d])) {outGradient : Tensor F} {g : F}
    (hg : onlyEntry outGradient = .ok g) :
    (softmaxWithLoss (.labels ⟨[m], given⟩)).backward outGradient ⟨[m, d], rows⟩ 1 =
      .ok ⟨[m, d], (Split.classAxis m d []).join
        ((Supervision.labels classes).gradient (g / (rowTotals classes rows).weight)
          (softmaxLanes ((Split.classAxis m d []).lanes rows)))⟩ := by
  have hf : Fits (S := F) _ (Tensor.shape ⟨[m, d], rows⟩) _ := .labels hd hread
  exact lossBackward_eq hf hg

theorem sameLoss (hd : d ≠ 0)
    (hread : readLabels d (markOf? d) ⟨[n, h, w], labels⟩ = .ok marks)
    (x : Vector F (Shape.size [n, d, h, w])) : SameLoss labels x := by
  obtain ⟨classes, hclasses, hmarks⟩ := exists_classes hread
  obtain ⟨hweight, haverage⟩ := totals_eq hread hmarks x
  refine ⟨?_, ?_, fun outGradient g hg => ?_⟩
  · have hrows := forward_labels hd hclasses (rowsAt (countedPixels labels) x)
    rw [← rowsAt_softmax, ← haverage] at hrows
    exact ⟨_, _, forward_pixels hd hread x, hrows⟩
  · have hrows := softmaxCrossEntropy_eq hclasses (rowsAt (countedPixels labels) x)
    rw [← rowsAt_softmaxImages, ← pixelLoss_eq_labelLoss hread hmarks mul_one x] at hrows
    exact ⟨_, _, spatialSoftmaxCrossEntropy_eq hd hread x, hrows⟩
  · have hrows := backward_labels hd hclasses (rowsAt (countedPixels labels) x) hg
    rw [← hweight, ← rowsAt_gradient hmarks x] at hrows
    refine ⟨_, backward_pixels hd hread x hg, hrows, fun p hp c => ?_⟩
    have hmark : atPixel marks p = none :=
      mark_of_ignored hread (not_not.mp fun hne => hp (mem_countedPixels.mpr hne))
    rw [classesAt_gradient, hmark]
    simp

/-- **The loss of pixels is the loss of rows on the counted pixels**, if there are any and their
labels are accepted: with the same probabilities in every arithmetic, and with the same average loss
and the same gradient in exact arithmetic. -/
theorem pixels_eq_countedRows {S D : Type} [Scalar S] [Scalar D] [Precision S D]
    (hread : readLabels d (markOf? d) ⟨[n, h, w], labels⟩ = .ok marks)
    (hcounted : ∃ p, atPixel labels p ≠ ignoredLabel) :
    (∀ x : Vector S (Shape.size [n, d, h, w]), SameProbabilities labels D x) ∧
      ∀ x : Vector F (Shape.size [n, d, h, w]), SameLoss labels x := by
  have hd : d ≠ 0 := by
    rintro rfl
    obtain ⟨p, hp⟩ := hcounted
    obtain ⟨c, -⟩ := exists_mark_of_counted hread (mem_countedPixels.mpr hp)
    exact c.elim0
  exact ⟨sameProbabilities hd hread, sameLoss hd hread⟩

/-- Two pixels, one of them ignored. -/
theorem pixels_eq_countedRows_ignored :
    letI := ExactScalar.rational
    let labels : Vector Int32 (Shape.size [1, 1, 2]) := #v[1, -1]
    (∀ x : Vector ℚ (Shape.size [1, 2, 1, 2]), SameProbabilities labels ℚ x) ∧
      ∀ x : Vector ℚ (Shape.size [1, 2, 1, 2]), SameLoss labels x :=
  letI := ExactScalar.rational
  have hread : readLabels 2 (markOf? 2) ⟨[1, 1, 2], #v[1, -1]⟩ = .ok #v[some 1, none] :=
    readLabels_eq_ok_iff.mpr (by decide +kernel)
  pixels_eq_countedRows hread ⟨(0, 0, 0), by decide⟩

end Exact

end CrossEntropy
