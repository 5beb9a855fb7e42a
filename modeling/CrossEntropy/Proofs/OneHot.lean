import CrossEntropy.Proofs.Proportions

/-!
# Labels as distributions

A label is the distribution that is certain of a class. Loss and gradient are linear in the
distributions, so that labels determine them for all others: the loss is the average of what labels
cost the rows, weighed by the distributions.

* `combine`, `Operation.Combined`: linear combinations of vectors and of what operations give;
* **`distributions_combined`**: a combination of distributions has that of the losses and gradients;
* `oneHot`, **`labels_sameOn_oneHot`**: labels as distributions, which make no difference;
* `rowLoss`, `forward_rowAt`, `forward_distributions`: losses of single rows and their average;
* **`distributions_generalize_labels`**: all of this together.
-/

namespace CrossEntropy

open Scalar

variable {F : Type} [ExactScalar F]

/-! ## Linear combinations -/

section Combinations

variable {n d size : Nat} (v w : F)

/-- `v` times one vector plus `w` times another. -/
def combine (x y : Vector F n) : Vector F n :=
  Vector.zipWith (fun a b => v * a + w * b) x y

@[simp] theorem get_combine (x y : Vector F n) (k : Fin n) :
    (combine v w x y).get k = v * x.get k + w * y.get k :=
  get_zipWith ..

namespace Split

variable (s : Split size)

theorem lanes_combine (x y : Vector F size) :
    s.lanes (combine v w x y) = Vector.zipWith (combine v w) (s.lanes x) (s.lanes y) := by
  refine ext_get fun l => ext_get fun c => ?_
  simp only [get_lanes, get_zipWith, get_combine]

theorem join_combine (a b : Vector (Vector F s.classes) s.count) :
    s.join (Vector.zipWith (combine v w) a b) = combine v w (s.join a) (s.join b) := by
  refine s.ext_entry fun l c => ?_
  simp only [get_join_entry, get_zipWith, get_combine]

end Split

variable (t u : Vector (Vector F d) n) (p : Vector (Vector F d) n)

theorem average_combine :
    Supervision.average (.distributions (Vector.zipWith (combine v w) t u)) p =
      v * Supervision.average (.distributions t) p +
        w * Supervision.average (.distributions u) p := by
  have hcost (l : Fin n) :
      Supervision.cost (.distributions (Vector.zipWith (combine v w) t u)) (p.get l) l =
        v * Supervision.cost (.distributions t) (p.get l) l +
          w * Supervision.cost (.distributions u) (p.get l) l := by
    simp only [Supervision.cost, Supervision.demand, get_zipWith, get_combine, add_mul, mul_assoc,
      Finset.sum_add_distrib, ← Finset.mul_sum]
    ring
  simp only [Supervision.average, Supervision.mass, hcost, Finset.sum_add_distrib, ← Finset.mul_sum,
    add_div, mul_div_assoc]

theorem gradient_combine (scale : F) :
    Supervision.gradient scale p (.distributions (Vector.zipWith (combine v w) t u)) =
      Vector.zipWith (combine v w) (Supervision.gradient scale p (.distributions t))
        (Supervision.gradient scale p (.distributions u)) := by
  refine ext_get fun l => ext_get fun c => ?_
  rw [get_zipWith, get_combine]
  simp only [get_gradient, Supervision.demand, get_zipWith, get_combine, Finset.sum_add_distrib,
    ← Finset.mul_sum]
  ring

end Combinations

/-- Three operations have the same probabilities, and the losses and gradients of the third are `v`
times those of the first plus `w` times those of the second. -/
structure Operation.Combined (v w : F) (operation operation' combined : Operation F)
    (scores : Tensor F) : Prop where
  forward : ∃ p loss loss', operation.forward scores = .ok [p, Tensor.scalar loss] ∧
    operation'.forward scores = .ok [p, Tensor.scalar loss'] ∧
      combined.forward scores = .ok [p, Tensor.scalar (v * loss + w * loss')]
  backward {outGradient : Tensor F} {g : F} : onlyEntry outGradient = .ok g → ∃ b b',
    operation.backward outGradient scores 1 = .ok ⟨scores.shape, b⟩ ∧
      operation'.backward outGradient scores 1 = .ok ⟨scores.shape, b'⟩ ∧
        combined.backward outGradient scores 1 = .ok ⟨scores.shape, combine v w b b'⟩

section Rows

variable {n d : Nat} (x : Vector F (Shape.size [n, d]))

/-- **Loss and gradient are linear in the distributions.** -/
theorem distributions_combined (hd : d ≠ 0) (v w : F) (t u : Vector F (Shape.size [n, d])) :
    (softmaxWithLoss (.distributions ⟨[n, d], t⟩)).Combined v w
      (softmaxWithLoss (.distributions ⟨[n, d], u⟩))
      (softmaxWithLoss (.distributions ⟨[n, d], combine v w t u⟩)) ⟨[n, d], x⟩ := by
  let s := Split.classAxis n d []
  have hfits (y : Vector F (Shape.size [n, d])) :
      Fits (.distributions ⟨[n, d], y⟩) [n, d] ⟨s, .distributions (s.lanes y)⟩ := .distributions hd
  have hlanes : s.lanes (combine v w t u) = Vector.zipWith (combine v w) (s.lanes t) (s.lanes u) :=
    s.lanes_combine v w t u
  constructor
  · refine ⟨_, _, _, (hfits t).forward_eq x, (hfits u).forward_eq x, ?_⟩
    rw [(hfits _).forward_eq, hlanes, average_combine]
  · intro outGradient g hg
    refine ⟨_, _, (hfits t).lossBackward_eq_join x hg, (hfits u).lossBackward_eq_join x hg, ?_⟩
    rw [(hfits _).lossBackward_eq_join x hg, hlanes, gradient_combine, s.join_combine]
    rfl

/-! ## One-hot distributions -/

variable (d) in
/-- The distribution that is certain of a label: one for its class, zero for others. -/
def certain (label : Int32) : Vector F d :=
  Vector.ofFn fun c => if label.toInt = (c : Nat) then 1 else 0

variable (d) in
/-- The distributions that are certain of labels, as the rows of a matrix. -/
def oneHot (labels : Vector Int32 (Shape.size [n])) : Vector F (Shape.size [n, d]) :=
  (Split.classAxis n d []).join (labels.map (certain d))

theorem proportional_certain {shape : Shape} {labels : Vector Int32 (Shape.size shape)}
    {classes : Vector (Fin d) (Shape.size shape)}
    (hread : readLabels d (classOf? d) ⟨shape, labels⟩ = .ok classes) :
    Supervision.Proportional (1 : F) (.labels classes) (.distributions (labels.map (certain d))) := by
  constructor
  · intro l c
    have hlabel : (labels.get l).toInt = (c : Nat) ↔ c = classes.get l :=
      toInt_eq_iff_class hread l c
    simp only [Supervision.demand, certain, Vector.get_map, Vector.get_ofFn, hlabel, one_mul]
  · intro l
    exact (one_mul 1).symm

/-- **Labels are one-hot distributions.** -/
theorem labels_sameOn_oneHot (hd : d ≠ 0) {labels : Vector Int32 (Shape.size [n])}
    (hlabels : ∀ label ∈ labels, 0 ≤ label.toInt ∧ label.toInt < d) :
    (Targets.labels ⟨[n], labels⟩).SameOn (.distributions ⟨[n, d], oneHot d labels⟩) ⟨[n, d], x⟩ := by
  obtain ⟨classes, hread⟩ := exists_readings fun label hmem => isSome_classOf? (hlabels label hmem)
  let s := Split.classAxis n d []
  have hfits : Fits (.labels ⟨[n], labels⟩ : Targets F) [n, d] ⟨s, .labels classes⟩ :=
    .labels hd hread
  have hlanes : s.lanes (oneHot d labels) = (labels.map (certain d) : Vector (Vector F d) _) :=
    s.lanes_join _
  have hfits' : Fits (.distributions ⟨[n, d], oneHot d labels⟩) [n, d]
      ⟨s, .distributions (labels.map (certain (F := F) d))⟩ := hlanes ▸ .distributions hd
  exact hfits.sameOn_of_proportional hfits' (proportional_certain hread) one_ne_zero x

/-! ## Losses of rows -/

/-- What label `j` costs row `i`. -/
def rowLoss (i : Fin n) (j : Fin d) : F :=
  -Reference.logarithm (Reference.probability (Reference.byClass x i) j)

/-- One row of a matrix, as a matrix. -/
def rowAt {α : Type} (x : Vector α (Shape.size [n, d])) (i : Fin n) : Vector α (Shape.size [1, d]) :=
  Vector.ofFn fun k => Reference.byClass x i (k.cast (by simp))

theorem byClass_rowAt {α : Type} (x : Vector α (Shape.size [n, d])) (i : Fin n) :
    Reference.byClass (rowAt x i) 0 = Reference.byClass x i := by
  funext c
  refine (Vector.get_ofFn ..).trans (congrArg (Reference.byClass x i) (Fin.ext ?_))
  show 0 * d + c.val = c
  omega

theorem distributionLoss_eq (x t : Fin n → Fin d → F) : Reference.distributionLoss x t =
    (∑ i, ∑ j, t i j * -Reference.logarithm (Reference.probability (x i) j)) / n := by
  simp only [Reference.distributionLoss, rowCount_eq, sub_eq_add_neg, foldl_add_eq_sum, zero_add,
    mul_neg]

theorem labelLoss_row (x : Fin 1 → Fin d → F) (label : Fin 1 → Fin d) :
    Reference.labelLoss x label =
      -Reference.logarithm (Reference.probability (x 0) (label 0)) := by
  simp [Reference.labelLoss, rowCount_eq, Fin.foldl_succ]

theorem forward_rowAt (i : Fin n) (j : Fin d) {label : Int32} (hlabel : label.toInt = (j : Nat)) :
    ∃ p, (softmaxWithLoss (.labels ⟨[1], #v[label]⟩)).forward ⟨[1, d], rowAt x i⟩ =
      .ok [p, Tensor.scalar (rowLoss x i j)] := by
  have hread : readLabels d (classOf? d) ⟨[1], #v[label]⟩ = .ok #v[j] := by
    refine readLabels_eq_ok_iff.mpr ?_
    show (#v[label] : Vector Int32 1).map (classOf? d) = (#v[j] : Vector (Fin d) 1).map some
    simp [classOf?_eq_some_iff.mpr hlabel]
  have hfits : Fits (.labels ⟨[1], #v[label]⟩ : Targets F) [1, d] _ :=
    .labels (Nat.ne_zero_of_lt j.isLt) hread
  have hreference := softmaxCrossEntropy_eq hread (rowAt x i)
  rw [labelLoss_row, byClass_rowAt] at hreference
  exact ⟨_, hfits.forward_of_reference _ hreference⟩

/-- **The loss is the average of the costs of labels, weighed by the distributions.** -/
theorem forward_distributions (hd : d ≠ 0) (t : Vector F (Shape.size [n, d])) :
    ∃ p, (softmaxWithLoss (.distributions ⟨[n, d], t⟩)).forward ⟨[n, d], x⟩ =
      .ok [p, Tensor.scalar ((∑ i, ∑ j, Reference.byClass t i j * rowLoss x i j) / n)] := by
  have hfits : Fits (.distributions ⟨[n, d], t⟩) [n, d] _ := .distributions hd
  have hreference := softLabelCrossEntropy_eq x t
  rw [distributionLoss_eq] at hreference
  exact ⟨_, hfits.forward_of_reference x hreference⟩

/-- **Distributions generalize labels linearly.** Loss and gradient are linear in the distributions.
Labels are the distributions that are certain of them, to the operation and to the references. So
the loss is the average of what labels cost the rows, each on its own, weighed by the
distributions. -/
theorem distributions_generalize_labels (hd : d ≠ 0) :
    (∀ (t u : Vector F (Shape.size [n, d])) (v w : F),
      (softmaxWithLoss (.distributions ⟨[n, d], t⟩)).Combined v w
        (softmaxWithLoss (.distributions ⟨[n, d], u⟩))
        (softmaxWithLoss (.distributions ⟨[n, d], combine v w t u⟩)) ⟨[n, d], x⟩) ∧
    (∀ labels : Vector Int32 (Shape.size [n]),
      (∀ label ∈ labels, 0 ≤ label.toInt ∧ label.toInt < d) →
        (Targets.labels ⟨[n], labels⟩).SameOn (.distributions ⟨[n, d], oneHot d labels⟩)
          ⟨[n, d], x⟩) ∧
    (∀ (i : Fin n) (j : Fin d) (label : Int32), label.toInt = (j : Nat) → ∃ p,
      (softmaxWithLoss (.labels ⟨[1], #v[label]⟩)).forward ⟨[1, d], rowAt x i⟩ =
        .ok [p, Tensor.scalar (rowLoss x i j)]) ∧
    ∀ t : Vector F (Shape.size [n, d]), ∃ p,
      (softmaxWithLoss (.distributions ⟨[n, d], t⟩)).forward ⟨[n, d], x⟩ =
        .ok [p, Tensor.scalar ((∑ i, ∑ j, Reference.byClass t i j * rowLoss x i j) / n)] := by
  refine ⟨?_, ?_, ?_, ?_⟩
  · intro t u v w
    exact distributions_combined x hd v w t u
  · intro labels hlabels
    exact labels_sameOn_oneHot x hd hlabels
  · intro i j label hlabel
    exact forward_rowAt x i j hlabel
  · intro t
    exact forward_distributions x hd t

/-- Two rows of two classes with the labels one and zero. -/
theorem distributions_generalize_labels_two :
    letI := ExactScalar.rational
    let x : Vector ℚ (Shape.size [2, 2]) := #v[1, 3, 2, 1]
    let labels : Tensor Int32 := ⟨[2], #v[1, 0]⟩
    let targets : Tensor ℚ := ⟨[2, 2], #v[0, 1, 1, 0]⟩
    (Targets.labels labels).SameOn (.distributions targets) ⟨[2, 2], x⟩ ∧
      ∃ p, (softmaxWithLoss (.labels ⟨[1], #v[1]⟩)).forward ⟨[1, 2], rowAt x 0⟩ =
        .ok [p, Tensor.scalar (rowLoss x 0 1)] := by
  let _ := ExactScalar.rational
  intro x labels targets
  have hgeneralize := distributions_generalize_labels (F := ℚ) (n := 2) (d := 2) x (by decide)
  have htargets : Tensor.mk [2, 2] (oneHot 2 #v[1, 0]) = targets := by decide +kernel
  have hlabels : ∀ label ∈ (#v[1, 0] : Vector Int32 2), 0 ≤ label.toInt ∧ label.toInt < 2 := by
    simp
  have hsame := hgeneralize.2.1 #v[1, 0] hlabels
  rw [htargets] at hsame
  exact ⟨hsame, hgeneralize.2.2.1 0 1 1 (by decide)⟩

end Rows

end CrossEntropy
