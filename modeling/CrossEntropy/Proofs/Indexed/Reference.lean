import CrossEntropy.Proofs.Indexed.Labels
import CrossEntropy.Proofs.Indexed.Softmax
import CrossEntropy.Proofs.LossReference

/-!
# References by index

The reference formulas as nested loops over explicit indices, which fill the probabilities in place
and look up the entry of each label afterwards. They never stop, and are the reference formulas.

* `normalizeAt`, `softmaxOver`: the probabilities at a location and at all locations;
* **`softmaxAxis_eq`, `softmaxCrossEntropy_eq`, `softLabelCrossEntropy_eq`,
  `spatialSoftmaxCrossEntropy_eq`**: the four references.
-/

namespace CrossEntropy.Indexed

open Scalar Reference

variable {A : Type} [Scalar A]

/-! ## Loops -/

/-- What the largest score at a location is looked for from. -/
def startAt (classes : Nat) (scores : Tensor A) (location : List Nat) : Option A :=
  match (bottom? : Option A) with
  | some bottom => some bottom
  | none => if 0 < classes then read scores (atClass location 0) else some 0

/-- The largest score at a location. -/
def greatestAt (classes : Nat) (scores : Tensor A) (location : List Nat) : Option A := do
  let start ← startAt classes scores location
  Fin.foldlM classes (fun best c => do
    let score ← read scores (atClass location c)
    return larger best score) start

/-- Fills in the exponentials of a location, and adds them up. -/
def exponentialsAt (classes : Nat) (scores : Tensor A) (location : List Nat) (best : A)
    (filled : Tensor A) : Option (Tensor A × A) :=
  Fin.foldlM classes (fun s c => do
    let score ← read scores (atClass location c)
    let filled ← write s.1 (atClass location c) (exp (score - best))
    return (filled, s.2 + exp (score - best))) (filled, 0)

/-- Divides what is filled in at a location. -/
def divideAt (classes : Nat) (location : List Nat) (norm : A) (filled : Tensor A) :
    Option (Tensor A) :=
  Fin.foldlM classes (fun filled c => do
    let exponential ← read filled (atClass location c)
    write filled (atClass location c) (exponential / norm)) filled

/-- Fills in the probabilities of a location. -/
def normalizeAt (classes : Nat) (scores : Tensor A) (location : List Nat) (filled : Tensor A) :
    Option (Tensor A) := do
  let best ← greatestAt classes scores location
  let (filled, norm) ← exponentialsAt classes scores location best filled
  divideAt classes location norm filled

/-- The probabilities of all locations. -/
def softmaxOver (locations : Shape) (classes : Nat) (scores : Tensor A) : Option (Tensor A) :=
  loop locations (normalizeAt classes scores) ⟨scores.shape, Vector.replicate _ 0⟩

/-- Softmax over everything from an axis on. -/
def softmaxAxis (axis : Nat) (scores : Tensor A) : Run ShapeError (Tensor A) := do
  let (n, d) ← flattenedDimensions scores.shape axis
  let rows ← settled (reshape "scores" [n, d] scores)
  let probabilities ← access (softmaxOver [n] d rows)
  settled (reshape "probabilities" scores.shape probabilities)

/-- The costs of the labels of `n` rows, and the number of rows. -/
def labelSums (n : Nat) (labels : Tensor Int32) (probabilities : Tensor A) : Option (A × A) :=
  loop [n] (fun location s => do
    let label ← read labels location
    let p ← read probabilities (atClass location (asIndex label))
    return (s.1 - logarithm p, s.2 + 1)) (0, 0)

/-- The costs of the targets of `n` rows, and the number of rows. -/
def distributionSums (n d : Nat) (targets probabilities : Tensor A) : Option (A × A) :=
  loop [n] (fun location s => do
    let loss ← Fin.foldlM d (fun loss c => do
      let t ← read targets (atClass location c)
      let p ← read probabilities (atClass location c)
      return loss - t * logarithm p) s.1
    return (loss, s.2 + 1)) (0, 0)

/-- The weighted costs of the labels of pixels, and their weights. -/
def pixelSums (n h w : Nat) (labels : Tensor Int32) (weights : Option (Tensor A))
    (probabilities : Tensor A) : Option (A × A) :=
  loop [n, h, w] (fun location s =>
    atCounted labels weights location s fun index weight => do
      let p ← read probabilities (atClass location index)
      return (s.1 - logarithm p * weight, s.2 + weight)) (0, 0)

/-- Softmax of rows and the average cost of their labels. -/
def softmaxCrossEntropy : Tensor A → Tensor Int32 → Run ShapeError (Tensor A × A)
  | ⟨[n, d], x⟩, labels => do
    let _ ← settled (labels.expectShape "labels" [n])
    settled (validateLabels d false labels)
    let probabilities ← access (softmaxOver [n] d ⟨[n, d], x⟩)
    let (loss, count) ← access (labelSums n labels probabilities)
    return (probabilities, loss / count)
  | x, _ => settled (.error (.wrongRank 2 x.shape))

/-- Softmax of rows and the average cost of their distributions. -/
def softLabelCrossEntropy : Tensor A → Tensor A → Run ShapeError (Tensor A × A)
  | ⟨[n, d], x⟩, targets => do
    let _ ← settled (targets.expectShape "targets" [n, d])
    let probabilities ← access (softmaxOver [n] d ⟨[n, d], x⟩)
    let (loss, count) ← access (distributionSums n d targets probabilities)
    return (probabilities, loss / count)
  | x, _ => settled (.error (.wrongRank 2 x.shape))

/-- Softmax of pixels and the weighted average cost of those that are not ignored. -/
def spatialSoftmaxCrossEntropy :
    Tensor A → Tensor Int32 → Option (Tensor A) → Run ShapeError (Tensor A × A)
  | ⟨[n, d, h, w], x⟩, labels, weights => do
    let _ ← settled (labels.expectShape "labels" [n, h, w])
    let _ ← settled (expectPixelWeights n h w weights)
    if d = 0 then settled (.error (.noClasses [n, d, h, w])) else do
      settled (validateLabels d true labels)
      let probabilities ← access (softmaxOver [n, h, w] d ⟨[n, d, h, w], x⟩)
      let (loss, weight) ← access (pixelSums n h w labels weights probabilities)
      return (probabilities, loss / weight)
  | x, _, _ => settled (.error (.wrongRank 4 x.shape))

/-! ## Probabilities -/

section Probabilities

variable {n d : Nat} {rest : Shape}

variable (x b : Vector (Vector A d) (Shape.size (n :: rest))) (l : Fin (Shape.size (n :: rest)))

theorem startAt_eq :
    startAt d (ofLanes n rest x) (Shape.unravel (n :: rest) l) =
      some ((bottom? : Option A).getD (if hd : 0 < d then (x.get l).get ⟨0, hd⟩ else 0)) := by
  unfold startAt
  cases (bottom? : Option A) with
  | some bottom => rfl
  | none =>
    by_cases hd : 0 < d
    · simp only [if_pos hd, dif_pos hd]
      exact read_ofLanes x l ⟨0, hd⟩
    · simp only [if_neg hd, dif_neg hd]
      rfl

theorem greatestAt_eq :
    greatestAt d (ofLanes n rest x) (Shape.unravel (n :: rest) l) =
      some (greatest (x.get l).get) := by
  unfold greatestAt
  rw [startAt_eq]
  apply foldlM_eq id
  intro best c
  rw [read_ofLanes]
  rfl

theorem exponentialsAt_eq (best : A) :
    exponentialsAt d (ofLanes n rest x) (Shape.unravel (n :: rest) l) best (ofLanes n rest b) =
      some (ofLanes n rest (b.set l (Vector.ofFn fun c => exp ((x.get l).get c - best)) l.isLt),
        Fin.foldl d (fun norm c => norm + exp ((x.get l).get c - best)) 0) := by
  apply foldlM_lane_prod (f := fun c _ => exp ((x.get l).get c - best))
  intro b s c
  simp only [read_ofLanes, write_ofLanes, Option.bind_eq_bind, Option.bind_some]
  rfl

theorem divideAt_eq (norm : A) :
    divideAt d (Shape.unravel (n :: rest) l) norm (ofLanes n rest b) =
      some (ofLanes n rest (b.set l (Vector.ofFn fun c => (b.get l).get c / norm) l.isLt)) := by
  apply foldlM_lane (f := fun _ e => e / norm)
  intro b c
  simp only [read_ofLanes, write_ofLanes, Option.bind_eq_bind, Option.bind_some]

theorem normalizeAt_eq :
    normalizeAt d (ofLanes n rest x) (Shape.unravel (n :: rest) l) (ofLanes n rest b) =
      some (ofLanes n rest (b.set l (softmaxLane (x.get l)) l.isLt)) := by
  unfold normalizeAt
  rw [greatestAt_eq]
  simp only [Option.bind_eq_bind, Option.bind_some, exponentialsAt_eq, divideAt_eq, get_set, if_true,
    Vector.set_set]
  refine congrArg (fun lane => some (ofLanes n rest (b.set l lane))) (ext_get ?_)
  intro c
  rw [get_softmaxLane, Vector.get_ofFn, Vector.get_ofFn]
  rfl

/-- **Filled in location by location, the probabilities are the softmax of every lane.** -/
theorem softmaxOver_eq (y : Vector A (Shape.size (n :: d :: rest))) :
    softmaxOver (n :: rest) d ⟨n :: d :: rest, y⟩ =
      some (ofLanes n rest (CrossEntropy.softmaxLanes (lanesOf y))) := by
  have hzero : Tensor.mk (n :: d :: rest) (Vector.replicate _ (0 : A)) =
      ofLanes n rest (Vector.replicate _ (Vector.replicate d 0)) :=
    congrArg (Tensor.mk (n :: d :: rest)) (join_replicate (Split.classAxis n d rest) 0).symm
  unfold softmaxOver
  show loop (n :: rest) _ (Tensor.mk (n :: d :: rest) (Vector.replicate _ 0)) = _
  rw [hzero, ← ofLanes_lanesOf y]
  refine (loop_lanes (f := fun l _ => softmaxLane ((lanesOf y).get l)) ?_).trans ?_
  · intro b l
    exact normalizeAt_eq (lanesOf y) b l
  · refine congrArg (fun lanes => some (ofLanes n rest lanes)) (ext_get ?_)
    intro l
    rw [Vector.get_ofFn]
    exact (get_softmaxLanes (lanesOf y) l).symm

end Probabilities

/-! ## Losses -/

section Rows

variable {n d : Nat} {x : Fin n → Fin d → A} {p : Vector (Vector A d) (Shape.size [n])}
  (hp : ∀ i c, (p.get (rowLane (d := d) i)).get c = probability (x i) c)

include hp

theorem labelSums_eq {entries : Vector Int32 (Shape.size [n])}
    {classes : Vector (Fin d) (Shape.size [n])}
    (hread : readLabels d (classOf? d) ⟨[n], entries⟩ = .ok classes) :
    labelSums n ⟨[n], entries⟩ (ofLanes n [] p) =
      some (Fin.foldl n (fun loss i => loss - logarithm (probability (x i) (byRow classes i))) 0,
        rowCount n) := by
  refine (loop_prod (f := fun loss l => loss - logarithm ((p.get l).get (classes.get l)))
    (g := fun count _ => count + 1) Prod.mk ?_ 0 0).trans ?_
  · intro loss count l
    have hindex : asIndex (entries.get l) = classes.get l := asIndex_of_class hread l
    simp only [read_unravel, Option.bind_eq_bind, Option.bind_some, hindex, read_ofLanes]
    rfl
  · refine congrArg some (congrArg₂ Prod.mk ?_ (foldl_rowLane (d := d) _ _))
    refine (foldl_rowLane (d := d) _ 0).trans ?_
    apply foldl_congr
    intro loss i
    exact congrArg (fun q => loss - logarithm q) (hp i _)

theorem distributionSums_eq (t : Vector A (Shape.size [n, d])) :
    distributionSums n d ⟨[n, d], t⟩ (ofLanes n [] p) =
      some (Fin.foldl n (fun loss i => Fin.foldl d (fun loss j =>
        loss - byClass t i j * logarithm (probability (x i) j)) loss) 0, rowCount n) := by
  let b : Vector (Vector A d) (Shape.size [n]) := (Split.classAxis n d []).lanes t
  have htargets : Tensor.mk [n, d] t = ofLanes n [] b :=
    congrArg (Tensor.mk [n, d]) ((Split.classAxis n d []).join_lanes t).symm
  rw [htargets]
  refine (loop_prod (g := fun count _ => count + 1) (f := fun loss l =>
    Fin.foldl d (fun loss c => loss - (b.get l).get c * logarithm ((p.get l).get c)) loss)
    Prod.mk ?_ 0 0).trans ?_
  · intro loss count l
    have hrow := foldlM_eq (f := fun loss c => do
        let t ← read (ofLanes n [] b) (atClass (Shape.unravel [n] l) c)
        let q ← read (ofLanes n [] p) (atClass (Shape.unravel [n] l) c)
        return loss - t * logarithm q)
      (g := fun loss c => loss - (b.get l).get c * logarithm ((p.get l).get c)) id (by
        intro loss c
        simp only [read_ofLanes, Option.bind_eq_bind, Option.bind_some, id]
        rfl) loss
    exact congrArg (fun row => row >>= fun loss => some (loss, count + 1)) hrow
  · refine congrArg some (congrArg₂ Prod.mk ?_ (foldl_rowLane (d := d) _ _))
    refine (foldl_rowLane (d := d) _ 0).trans ?_
    apply foldl_congr
    intro loss i
    apply foldl_congr
    intro loss c
    have ht : (b.get (rowLane (d := d) i)).get c = byClass t i c :=
      ((Split.classAxis n d []).get_lanes t (rowLane i) c).trans (get_entry_rowLane t i c)
    exact congrArg₂ (fun t q => loss - t * logarithm q) ht (hp i c)

end Rows

section Pixels

variable {n d h w : Nat} {x : Fin n → Fin d → Fin h → Fin w → A}
  {p : Vector (Vector A d) (Shape.size [n, h, w])}
  (hp : ∀ i y v c, (p.get (pixelLane (d := d) i y v)).get c = probability (fun k => x i k y v) c)

include hp

theorem pixelSums_eq {entries : Vector Int32 (Shape.size [n, h, w])}
    {marks : Vector (Option (Fin d)) (Shape.size [n, h, w])}
    (hread : readLabels d (markOf? d) ⟨[n, h, w], entries⟩ = .ok marks)
    (weights : Option (Vector A (Shape.size [n, h, w]))) :
    pixelSums n h w ⟨[n, h, w], entries⟩ (weights.map (Tensor.mk [n, h, w]))
        (ofLanes n [h, w] p) =
      some (
        foldPixels (fun loss i y v => match byPixel marks i y v with
          | none => loss
          | some c => loss - logarithm (probability (fun k => x i k y v) c) *
              weightOf weights (pixelLane (d := d) i y v)) 0,
        foldPixels (fun mass i y v => match byPixel marks i y v with
          | none => mass
          | some _ => mass + weightOf weights (pixelLane (d := d) i y v)) 0) := by
  refine (loop_prod
    (f := fun loss l => match marks.get l with
      | none => loss
      | some c => loss - logarithm ((p.get l).get c) * weightOf weights l)
    (g := fun mass l => match marks.get l with
      | none => mass
      | some _ => mass + weightOf weights l) Prod.mk ?_ 0 0).trans ?_
  · intro loss mass l
    rw [atCounted_eq hread]
    cases marks.get l with
    | none => rfl
    | some c =>
      simp only [read_ofLanes]
      rfl
  · refine congrArg some (congrArg₂ Prod.mk ?_ (foldl_pixelLane (d := d) _ 0))
    refine (foldl_pixelLane (d := d) _ 0).trans (congrArg (foldPixels · 0) ?_)
    funext loss i y v
    have hmark : marks.get (pixelLane (d := d) i y v) = byPixel marks i y v := rfl
    rw [hmark]
    cases byPixel marks i y v with
    | none => rfl
    | some c => exact congrArg (fun q => loss - logarithm q * _) (hp i y v c)

end Pixels

/-! ## The references -/

theorem softmaxAxis_eq (axis : Nat) (scores : Tensor A) :
    softmaxAxis axis scores = settled (Reference.softmaxAxis axis scores) := by
  rw [← softmaxForward_eq_softmaxAxis]
  obtain ⟨shape, x⟩ := scores
  unfold softmaxAxis CrossEntropy.softmaxForward
  rw [rows_eq_map, flattenedDimensions_eq]
  cases h : CrossEntropy.flattenedDimensions shape axis with
  | error e => rfl
  | ok dimensions =>
    obtain ⟨n, d⟩ := dimensions
    have hsize := size_eq_of_flattenedDimensions h
    obtain ⟨rfl, rfl⟩ := flattenedDimensions_eq_ok h
    have hcast := (Split.flattened shape axis).cast_softmax hsize x
    show settled (reshape "scores" [_, _] ⟨shape, x⟩) >>= _ = _
    rw [reshape_eq hsize, settled_ok_bind, softmaxOver_eq, access_some, settled_ok_bind]
    refine (congrArg settled (reshape_eq hsize.symm _)).trans ?_
    exact congrArg (fun y => settled (.ok (Tensor.mk shape y))) hcast

theorem softmaxCrossEntropy_eq (scores : Tensor A) (labels : Tensor Int32) :
    softmaxCrossEntropy scores labels = settled (Reference.softmaxCrossEntropy scores labels) := by
  obtain ⟨shape, x⟩ := scores
  match shape with
  | [n, d] =>
    apply settled_bind
    intro entries hentries
    rw [expectShape_eq_ok_iff] at hentries
    subst hentries
    rw [validateLabels_eq fun _ => isNameless_eq_class]
    cases hread : readLabels d (classOf? d) ⟨[n], entries⟩ with
    | error e => rfl
    | ok classes =>
      show access (softmaxOver [n] d ⟨[n, d], x⟩) >>= _ = _
      rw [softmaxOver_eq, access_some, settled_ok_bind,
        labelSums_eq (p := CrossEntropy.softmaxLanes (lanesOf x)) (get_softmax_rowLane x) hread]
      exact congrArg (fun p => settled (.ok (Tensor.mk [n, d] p, _))) (softmaxMatrix_eq_tensor x).symm
  | [] | [_] | _ :: _ :: _ :: _ => rfl

theorem softLabelCrossEntropy_eq (scores targets : Tensor A) :
    softLabelCrossEntropy scores targets =
      settled (Reference.softLabelCrossEntropy scores targets) := by
  obtain ⟨shape, x⟩ := scores
  match shape with
  | [n, d] =>
    apply settled_bind
    intro t ht
    rw [expectShape_eq_ok_iff] at ht
    subst ht
    rw [softmaxOver_eq, access_some, settled_ok_bind,
      distributionSums_eq (p := CrossEntropy.softmaxLanes (lanesOf x)) (get_softmax_rowLane x) t]
    exact congrArg (fun p => settled (.ok (Tensor.mk [n, d] p, _))) (softmaxMatrix_eq_tensor x).symm
  | [] | [_] | _ :: _ :: _ :: _ => rfl

theorem exists_weights {n d h w : Nat} {given : Option (Tensor A)}
    {weight : Fin n → Fin h → Fin w → A} (hgiven : expectPixelWeights n h w given = .ok weight) :
    ∃ weights : Option (Vector A (Shape.size [n, h, w])),
      given = weights.map (Tensor.mk [n, h, w]) ∧
        weight = fun i y v => weightOf weights (pixelLane (d := d) i y v) := by
  cases given with
  | none =>
    cases hgiven
    exact ⟨none, rfl, rfl⟩
  | some given =>
    obtain ⟨entries, hentries, hweight⟩ := bind_eq_ok_iff.mp hgiven
    cases hweight
    rw [expectShape_eq_ok_iff] at hentries
    subst hentries
    exact ⟨some entries, rfl, rfl⟩

theorem spatialSoftmaxCrossEntropy_eq (scores : Tensor A) (labels : Tensor Int32)
    (weights : Option (Tensor A)) :
    spatialSoftmaxCrossEntropy scores labels weights =
      settled (Reference.spatialSoftmaxCrossEntropy scores labels weights) := by
  obtain ⟨shape, x⟩ := scores
  match shape with
  | [n, d, h, w] =>
    apply settled_bind
    intro entries hentries
    rw [expectShape_eq_ok_iff] at hentries
    subst hentries
    apply settled_bind
    intro weight hweight
    obtain ⟨weights, rfl, rfl⟩ := exists_weights (d := d) hweight
    by_cases hd : d = 0
    · rw [if_pos hd, if_pos hd]
      rfl
    · rw [if_neg hd, if_neg hd, validateLabels_eq fun _ => isNameless_eq_mark]
      cases hread : readLabels d (markOf? d) ⟨[n, h, w], entries⟩ with
      | error e => rfl
      | ok marks =>
        show access (softmaxOver [n, h, w] d ⟨[n, d, h, w], x⟩) >>= _ = _
        rw [softmaxOver_eq, access_some, settled_ok_bind,
          pixelSums_eq (p := CrossEntropy.softmaxLanes (lanesOf x)) (get_softmax_pixelLane x) hread]
        exact congrArg (fun p => settled (.ok (Tensor.mk [n, d, h, w] p, _)))
          (softmaxImages_eq_tensor x).symm
  | [] | [_] | [_, _] | [_, _, _] | _ :: _ :: _ :: _ :: _ :: _ => rfl

end CrossEntropy.Indexed
