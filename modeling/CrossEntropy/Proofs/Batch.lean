import CrossEntropy.Proofs.LossSums

/-!
# Batches one after the other

Two batches make a larger one, the examples of the first before those of the second. Each example
keeps its probabilities, costs and weights add up, and so the average loss is that of the two
batches, weighed by what they weigh in all.

* `stack`, `Tensor.Stacked`, `Targets.Stacked`: vectors, tensors and targets one after the other;
* `forall_batch`, `sum_batch`: a place belongs to the first batch or to the second;
* `lanes_stack`, `join_stack`: the lanes along the class axis are those of both batches;
* `Supervision.Stacked`: what is asked of the lanes;
* **`forward_backward_stacked`**: probabilities, loss and gradient for both batches together.
-/

namespace CrossEntropy

open Scalar

/-! ## Places of two batches -/

section Stack

variable {α β : Type} {n m k : Nat}

/-- A place of the first batch, as one of both. -/
def ofFirst (m : Nat) (l : Fin (n * k)) : Fin ((n + m) * k) :=
  (Fin.castAdd (m * k) l).cast (Nat.add_mul n m k).symm

/-- A place of the second batch, as one of both. -/
def ofSecond (n : Nat) (l : Fin (m * k)) : Fin ((n + m) * k) :=
  (Fin.natAdd (n * k) l).cast (Nat.add_mul n m k).symm

theorem forall_batch {P : Fin ((n + m) * k) → Prop} (hfirst : ∀ l, P (ofFirst m l))
    (hsecond : ∀ l, P (ofSecond n l)) (l : Fin ((n + m) * k)) : P l :=
  Fin.addCases (motive := fun l => P (l.cast (Nat.add_mul n m k).symm)) hfirst hsecond
    (l.cast (Nat.add_mul n m k))

theorem sum_batch {M : Type} [AddCommMonoid M] (f : Fin ((n + m) * k) → M) :
    ∑ l, f l = ∑ l, f (ofFirst m l) + ∑ l, f (ofSecond n l) := by
  rw [← Equiv.sum_comp (finCongr (Nat.add_mul n m k).symm) f, Fin.sum_univ_add]
  rfl

/-- The entries of two batches, one after the other. -/
def stack (x : Vector α (n * k)) (y : Vector α (m * k)) : Vector α ((n + m) * k) :=
  (x ++ y).cast (Nat.add_mul n m k).symm

variable (x : Vector α (n * k)) (y : Vector α (m * k))

@[simp] theorem get_stack_first (l : Fin (n * k)) : (stack x y).get (ofFirst m l) = x.get l :=
  Vector.getElem_append_left l.isLt

@[simp] theorem get_stack_second (l : Fin (m * k)) : (stack x y).get (ofSecond n l) = y.get l := by
  show (x ++ y)[n * k + l.val] = y[l.val]
  simp [Vector.getElem_append_right]

theorem ext_batch {x y : Vector α ((n + m) * k)}
    (hfirst : ∀ l, x.get (ofFirst m l) = y.get (ofFirst m l))
    (hsecond : ∀ l, x.get (ofSecond n l) = y.get (ofSecond n l)) : x = y :=
  ext_get (forall_batch hfirst hsecond)

theorem map_stack (f : α → β) : (stack x y).map f = stack (x.map f) (y.map f) := by
  apply ext_batch <;> simp

end Stack

/-! ## Lanes of two batches -/

section Lanes

variable {α : Type} {n m d k : Nat}

/-- The split along the class axis, with its numbers in sight: the sizes of the shapes that
`Split.classAxis` is about would have to be unfolded before each step. -/
abbrev Split.blocks (n d k : Nat) : Split (n * (d * k)) := ⟨n, d, k, rfl⟩

theorem entry_first (l : Fin (n * k)) (c : Fin d) :
    (Split.blocks (n + m) d k).entry (ofFirst m l) c = ofFirst m ((Split.blocks n d k).entry l c) :=
  rfl

theorem entry_second (l : Fin (m * k)) (c : Fin d) :
    (Split.blocks (n + m) d k).entry (ofSecond n l) c =
      ofSecond n ((Split.blocks m d k).entry l c) := by
  have hinner : 0 < k := (Split.blocks m d k).inner_pos l
  apply Fin.ext
  show ((n * k + l) / k * d + c) * k + (n * k + l) % k =
    n * (d * k) + ((l / k * d + c) * k + l % k)
  rw [Nat.mul_comm n, Nat.mul_add_div hinner, Nat.mul_add_mod]
  ring

theorem lanes_stack (x : Vector α (n * (d * k))) (y : Vector α (m * (d * k))) :
    (Split.blocks (n + m) d k).lanes (stack x y) =
      stack ((Split.blocks n d k).lanes x) ((Split.blocks m d k).lanes y) := by
  refine ext_batch (fun l => ext_get fun c => ?_) (fun l => ext_get fun c => ?_)
  · rw [Split.get_lanes, entry_first, get_stack_first, get_stack_first, Split.get_lanes]
  · rw [Split.get_lanes, entry_second, get_stack_second, get_stack_second, Split.get_lanes]

theorem join_stack (a : Vector (Vector α d) (n * k)) (b : Vector (Vector α d) (m * k)) :
    (Split.blocks (n + m) d k).join (stack a b) =
      stack ((Split.blocks n d k).join a) ((Split.blocks m d k).join b) := by
  have hlanes := lanes_stack ((Split.blocks n d k).join a) ((Split.blocks m d k).join b)
  rw [Split.lanes_join, Split.lanes_join] at hlanes
  rw [← hlanes, Split.join_lanes]

variable {A : Type} [Scalar A] (x : Vector A (n * (d * k))) (y : Vector A (m * (d * k)))

theorem softmaxLanes_stack :
    softmaxLanes ((Split.blocks (n + m) d k).lanes (stack x y)) =
      stack (softmaxLanes ((Split.blocks n d k).lanes x))
        (softmaxLanes ((Split.blocks m d k).lanes y)) := by
  rw [lanes_stack]
  exact map_stack _ _ softmaxLane

theorem softmax_stack :
    (Split.blocks (n + m) d k).softmax (stack x y) =
      stack ((Split.blocks n d k).softmax x) ((Split.blocks m d k).softmax y) := by
  rw [Split.softmax, softmaxLanes_stack, join_stack]
  rfl

end Lanes

/-! ## Targets of lanes -/

section Supervision

variable {F : Type} [ExactScalar F] {n m d k : Nat}

theorem join_gradient_mul {size : Nat} (s : Split size) (a : Supervision F s.count s.classes)
    (r scale : F) (p : Vector (Vector F s.classes) s.count) :
    s.join (a.gradient (r * scale) p) = (s.join (a.gradient scale p)).map (r * ·) := by
  refine s.ext_entry fun l c => ?_
  rw [Vector.get_map, s.get_join_entry, s.get_join_entry, get_gradient, get_gradient, mul_assoc]

/-- `c` asks of the lanes of both batches what `a` asks of those of the first and `b` of those of
the second. -/
structure Supervision.Stacked (a : Supervision F (n * k) d) (b : Supervision F (m * k) d)
    (c : Supervision F ((n + m) * k) d) : Prop where
  demand_first (l : Fin (n * k)) (j : Fin d) : c.demand (ofFirst m l) j = a.demand l j
  demand_second (l : Fin (m * k)) (j : Fin d) : c.demand (ofSecond n l) j = b.demand l j
  mass_first (l : Fin (n * k)) : c.mass (ofFirst m l) = a.mass l
  mass_second (l : Fin (m * k)) : c.mass (ofSecond n l) = b.mass l

namespace Supervision.Stacked

variable {a : Supervision F (n * k) d} {b : Supervision F (m * k) d}
  {c : Supervision F ((n + m) * k) d} (h : a.Stacked b c) (p : Vector (Vector F d) (n * k))
  (q : Vector (Vector F d) (m * k))

include h

theorem sum_mass : ∑ l, c.mass l = ∑ l, a.mass l + ∑ l, b.mass l := by
  simp only [sum_batch, h.mass_first, h.mass_second]

theorem sum_cost : ∑ l, c.cost ((stack p q).get l) l =
    ∑ l, a.cost (p.get l) l + ∑ l, b.cost (q.get l) l := by
  simp only [sum_batch, cost, get_stack_first, get_stack_second, h.demand_first, h.demand_second]

/-- The average loss of both batches is that of each, weighed by what they weigh in all. -/
theorem average_eq (ha : ∑ l, a.mass l ≠ 0) (hb : ∑ l, b.mass l ≠ 0)
    (hc : ∑ l, a.mass l + ∑ l, b.mass l ≠ 0) :
    (∑ l, a.mass l + ∑ l, b.mass l) * c.average (stack p q) =
      (∑ l, a.mass l) * a.average p + (∑ l, b.mass l) * b.average q := by
  rw [average, average, average, h.sum_cost, h.sum_mass, mul_div_cancel₀ _ ha, mul_div_cancel₀ _ hb,
    mul_div_cancel₀ _ hc]

theorem gradient_eq (scale : F) :
    c.gradient scale (stack p q) = stack (a.gradient scale p) (b.gradient scale q) := by
  refine ext_batch (fun l => ext_get fun j => ?_) (fun l => ext_get fun j => ?_)
  · simp only [get_gradient, get_stack_first, h.demand_first]
  · simp only [get_gradient, get_stack_second, h.demand_second]

/-- The gradient for both batches is that for each, multiplied by its share of the weight. -/
theorem join_gradient (ha : ∑ l, a.mass l ≠ 0) (hb : ∑ l, b.mass l ≠ 0) (g : F) :
    (Split.blocks (n + m) d k).join (c.gradient (g / ∑ l, c.mass l) (stack p q)) =
      stack
        (((Split.blocks n d k).join (a.gradient (g / ∑ l, a.mass l) p)).map
          ((∑ l, a.mass l) / (∑ l, a.mass l + ∑ l, b.mass l) * ·))
        (((Split.blocks m d k).join (b.gradient (g / ∑ l, b.mass l) q)).map
          ((∑ l, b.mass l) / (∑ l, a.mass l + ∑ l, b.mass l) * ·)) := by
  have hshare {weight : F} (hweight : weight ≠ 0) (sum : F) :
      weight / sum * (g / weight) = g / sum := by
    rw [div_mul_div_comm, mul_comm sum, mul_div_mul_left _ _ hweight]
  rw [h.gradient_eq, join_stack, h.sum_mass, ← join_gradient_mul, ← join_gradient_mul, hshare ha,
    hshare hb]

end Supervision.Stacked

theorem stacked_labels (classes : Vector (Fin d) (n * k)) (classes' : Vector (Fin d) (m * k)) :
    Supervision.Stacked (F := F) (.labels classes) (.labels classes')
      (.labels (stack classes classes')) := by
  constructor <;> intros <;> simp [Supervision.demand, Supervision.mass]

theorem stacked_distributions (t : Vector (Vector F d) (n * k)) (t' : Vector (Vector F d) (m * k)) :
    Supervision.Stacked (.distributions t) (.distributions t') (.distributions (stack t t')) := by
  constructor <;> intros <;> simp [Supervision.demand, Supervision.mass]

theorem stacked_pixels (marks : Vector (Option (Fin d)) (n * k))
    (marks' : Vector (Option (Fin d)) (m * k)) {weights : Option (Vector F (n * k))}
    {weights' : Option (Vector F (m * k))} {both : Option (Vector F ((n + m) * k))}
    (hfirst : ∀ l, weightOf both (ofFirst m l) = weightOf weights l)
    (hsecond : ∀ l, weightOf both (ofSecond n l) = weightOf weights' l) :
    Supervision.Stacked (.pixels (weighMarks marks weights)) (.pixels (weighMarks marks' weights'))
      (.pixels (weighMarks (stack marks marks') both)) := by
  constructor <;> intros <;>
    simp [demand_pixels, mass_pixels, hfirst, hsecond]

end Supervision

/-! ## Targets -/

section Targets

/-- Two tensors and the one that holds them one after the other, along the first axis. -/
inductive Tensor.Stacked {α : Type} : Tensor α → Tensor α → Tensor α → Prop
  | mk {n m : Nat} {rest : Shape} (x : Vector α (Shape.size (n :: rest)))
      (y : Vector α (Shape.size (m :: rest))) :
      Stacked ⟨n :: rest, x⟩ ⟨m :: rest, y⟩ ⟨(n + m) :: rest, stack x y⟩

/-- Weights for two batches, or for neither. -/
inductive Tensor.StackedWeights {α : Type} :
    Option (Tensor α) → Option (Tensor α) → Option (Tensor α) → Prop
  | none : StackedWeights none none none
  | some {x y z : Tensor α} (h : x.Stacked y z) : StackedWeights (some x) (some y) (some z)

/-- The targets of two batches, which are of one kind, and those of both. -/
inductive Targets.Stacked {S : Type} : Targets S → Targets S → Targets S → Prop
  | labels {x y z : Tensor Int32} (h : x.Stacked y z) : Stacked (.labels x) (.labels y) (.labels z)
  | distributions {x y z : Tensor S} (h : x.Stacked y z) :
      Stacked (.distributions x) (.distributions y) (.distributions z)
  | pixels {x y z : Tensor Int32} {u v w : Option (Tensor S)} (h : x.Stacked y z)
      (hweights : Tensor.StackedWeights u v w) : Stacked (.pixels x u) (.pixels y v) (.pixels z w)

theorem readLabels_stack {β : Type} {d n m : Nat} {rest : Shape} {read : Int32 → Option β}
    {x : Vector Int32 (Shape.size (n :: rest))} {y : Vector Int32 (Shape.size (m :: rest))}
    {readings : Vector β (Shape.size (n :: rest))} {readings' : Vector β (Shape.size (m :: rest))}
    (hx : readLabels d read ⟨n :: rest, x⟩ = .ok readings)
    (hy : readLabels d read ⟨m :: rest, y⟩ = .ok readings') :
    readLabels d read ⟨(n + m) :: rest, stack x y⟩ = .ok (stack readings readings') := by
  refine readLabels_eq_ok_iff.mpr ((map_stack x y read).trans ?_)
  refine .trans ?_ (map_stack readings readings' some).symm
  exact congrArg₂ stack (readLabels_eq_ok_iff.mp hx) (readLabels_eq_ok_iff.mp hy)

variable {F : Type} [ExactScalar F] {n m d : Nat} {rest : Shape}

theorem exists_weights_stack {weights : Option (Vector F (Shape.size (n :: rest)))}
    {weights' : Option (Vector F (Shape.size (m :: rest)))} {given : Option (Tensor F)}
    (h : Tensor.StackedWeights (weights.map (Tensor.mk (n :: rest)))
      (weights'.map (Tensor.mk (m :: rest))) given) :
    ∃ both : Option (Vector F (Shape.size ((n + m) :: rest))),
      given = both.map (Tensor.mk ((n + m) :: rest)) ∧
        (∀ l, weightOf both (ofFirst m l) = weightOf weights l) ∧
          ∀ l, weightOf both (ofSecond n l) = weightOf weights' l := by
  cases weights with
  | none =>
    cases weights' with
    | none =>
      cases h
      exact ⟨none, rfl, fun l => rfl, fun l => rfl⟩
    | some weights' => cases h
  | some weights =>
    cases weights' with
    | none => cases h
    | some weights' =>
      cases h with
      | some h =>
        cases h
        exact ⟨some _, rfl, get_stack_first weights weights', get_stack_second weights weights'⟩

variable {targets targets' both : Targets F}

theorem Targets.Stacked.exists_fits (h : targets.Stacked targets' both)
    {a : Supervision F (n * Shape.size rest) d} {b : Supervision F (m * Shape.size rest) d}
    (ha : Fits targets (n :: d :: rest) ⟨Split.classAxis n d rest, a⟩)
    (hb : Fits targets' (m :: d :: rest) ⟨Split.classAxis m d rest, b⟩) :
    ∃ c, Fits both ((n + m) :: d :: rest) ⟨Split.classAxis (n + m) d rest, c⟩ ∧ a.Stacked b c := by
  cases h with
  | labels h =>
    cases ha with
    | labels hd hread =>
      cases hb with
      | labels _ hread' =>
        cases h
        exact ⟨_, .labels hd (readLabels_stack hread hread'), stacked_labels _ _⟩
  | distributions h =>
    cases ha with
    | @distributions _ _ t hd =>
      cases hb with
      | @distributions _ _ t' =>
        cases h
        have hlanes : (Split.classAxis (n + m) d []).lanes (stack t t') =
            stack ((Split.classAxis n d []).lanes t) ((Split.classAxis m d []).lanes t') :=
          lanes_stack t t'
        exact ⟨_, .distributions hd, hlanes ▸ stacked_distributions _ _⟩
  | pixels h hweights =>
    cases ha with
    | pixels hd hread =>
      cases hb with
      | pixels _ hread' =>
        cases h
        obtain ⟨weights, rfl, hfirst, hsecond⟩ := exists_weights_stack hweights
        exact ⟨_, .pixels hd (readLabels_stack hread hread'), stacked_pixels _ _ hfirst hsecond⟩

end Targets

/-! ## The operation and its references -/

section Operation

variable {F : Type} [ExactScalar F]

/-- The operation and its reference accept scores, with these probabilities and this average
loss. -/
structure Targets.Gives (targets : Targets F) (scores p : Tensor F) (loss : F) : Prop where
  forward : (softmaxWithLoss targets).forward scores = .ok [p, Tensor.scalar loss]
  reference : targets.reference scores = .ok (p, loss)

/-- The gradients of the loss of both batches hold those of each, multiplied by its share of the
weight. -/
def Targets.GradientsStacked (targets targets' both : Targets F) (x y z : Tensor F) : Prop :=
  ∀ (outGradient : Tensor F) (g : F), onlyEntry outGradient = .ok g → ∃ u v w,
    (softmaxWithLoss targets).backward outGradient x 1 = .ok u ∧
    (softmaxWithLoss targets').backward outGradient y 1 = .ok v ∧
    (softmaxWithLoss both).backward outGradient z 1 = .ok w ∧
    (u.map (targets.totalWeight / (targets.totalWeight + targets'.totalWeight) * ·)).Stacked
      (v.map (targets'.totalWeight / (targets.totalWeight + targets'.totalWeight) * ·)) w

section Fitted

variable {targets targets' both : Targets F} {n m d : Nat} {rest : Shape}
  {a : Supervision F (n * Shape.size rest) d} {b : Supervision F (m * Shape.size rest) d}
  {c : Supervision F ((n + m) * Shape.size rest) d}
  (ha : Fits targets (n :: d :: rest) ⟨Split.classAxis n d rest, a⟩)
  (hb : Fits targets' (m :: d :: rest) ⟨Split.classAxis m d rest, b⟩)
  (hc : Fits both ((n + m) :: d :: rest) ⟨Split.classAxis (n + m) d rest, c⟩)
  (h : a.Stacked b c) (hw : targets.totalWeight ≠ 0) (hw' : targets'.totalWeight ≠ 0)
  (x : Vector F (Shape.size (n :: d :: rest))) (y : Vector F (Shape.size (m :: d :: rest)))

include ha hb hc h hw hw'

theorem Fits.gives_stacked (hsum : targets.totalWeight + targets'.totalWeight ≠ 0) :
    ∃ p p' q loss loss' average,
      targets.Gives ⟨n :: d :: rest, x⟩ p loss ∧ targets'.Gives ⟨m :: d :: rest, y⟩ p' loss' ∧
        both.Gives ⟨(n + m) :: d :: rest, stack x y⟩ q average ∧ p.Stacked p' q ∧
          (targets.totalWeight + targets'.totalWeight) * average =
            targets.totalWeight * loss + targets'.totalWeight * loss' := by
  have hlanes := softmaxLanes_stack (d := d) (k := Shape.size rest) x y
  have hsoftmax : (Split.classAxis (n + m) d rest).softmax (stack x y) =
      stack ((Split.classAxis n d rest).softmax x) ((Split.classAxis m d rest).softmax y) :=
    softmax_stack x y
  refine ⟨_, _, _, _, _, _, ⟨ha.forward_eq x, ha.reference_eq x⟩,
    ⟨hb.forward_eq y, hb.reference_eq y⟩,
    ⟨hc.forward_eq (stack x y), hc.reference_eq (stack x y)⟩, ?_, ?_⟩
  · rw [hsoftmax]
    exact .mk _ _
  · rw [ha.totalWeight_eq_sum x] at hw hsum ⊢
    rw [hb.totalWeight_eq_sum y] at hw' hsum ⊢
    have haverage := h.average_eq (softmaxLanes ((Split.classAxis n d rest).lanes x))
      (softmaxLanes ((Split.classAxis m d rest).lanes y)) hw hw' hsum
    exact (congrArg (fun p => _ * c.average p) hlanes).trans haverage

theorem Fits.gradientsStacked : targets.GradientsStacked targets' both ⟨n :: d :: rest, x⟩
    ⟨m :: d :: rest, y⟩ ⟨(n + m) :: d :: rest, stack x y⟩ := by
  intro outGradient g hg
  have hlanes := softmaxLanes_stack (d := d) (k := Shape.size rest) x y
  refine ⟨_, _, _, ha.lossBackward_eq_join x hg, hb.lossBackward_eq_join y hg,
    hc.lossBackward_eq_join (stack x y) hg, ?_⟩
  rw [ha.totalWeight_eq_sum x] at hw ⊢
  rw [hb.totalWeight_eq_sum y] at hw' ⊢
  have hgradient := h.join_gradient (softmaxLanes ((Split.blocks n d (Shape.size rest)).lanes x))
    (softmaxLanes ((Split.blocks m d (Shape.size rest)).lanes y)) hw hw' g
  rw [← hlanes] at hgradient
  exact Eq.subst (motive := fun entries => Tensor.Stacked _ _ ⟨(n + m) :: d :: rest, entries⟩)
    hgradient.symm (.mk _ _)

end Fitted

section Batches

variable {targets targets' both : Targets F} {x y z : Tensor F} (hscores : x.Stacked y z)
  (htargets : targets.Stacked targets' both) (hw : targets.totalWeight ≠ 0)
  (hw' : targets'.totalWeight ≠ 0) (hsum : targets.totalWeight + targets'.totalWeight ≠ 0)

include hscores htargets hw hw' hsum

theorem forward_stacked {f : Fitted F x.shape} {f' : Fitted F y.shape} (ha : Fits targets x.shape f)
    (hb : Fits targets' y.shape f') :
    (∃ p p' q loss loss' average, targets.Gives x p loss ∧ targets'.Gives y p' loss' ∧
      both.Gives z q average ∧ p.Stacked p' q ∧
        (targets.totalWeight + targets'.totalWeight) * average =
          targets.totalWeight * loss + targets'.totalWeight * loss') ∧
    targets.GradientsStacked targets' both x y z := by
  cases hscores with
  | @mk n m rest x y =>
    obtain ⟨n', d, rest', -, hshape⟩ := ha.exists_shape
    cases hshape
    obtain ⟨a, rfl⟩ := ha.eq_classAxis
    obtain ⟨b, rfl⟩ := hb.eq_classAxis
    obtain ⟨c, hc, h⟩ := htargets.exists_fits ha hb
    exact ⟨ha.gives_stacked hb hc h hw hw' x y hsum, ha.gradientsStacked hb hc h hw hw' x y⟩

theorem reference_stacked {result result' : Tensor F × F} (hok : targets.reference x = .ok result)
    (hok' : targets'.reference y = .ok result') : ∃ total, both.reference z = .ok total ∧
      (targets.totalWeight + targets'.totalWeight) * total.2 =
        targets.totalWeight * result.2 + targets'.totalWeight * result'.2 := by
  obtain ⟨f, ha⟩ | ⟨n, scores, t, rfl, rfl⟩ := fits_or_classless hok hw
  · obtain ⟨f', hb⟩ | ⟨m, scores, t, rfl, rfl⟩ := fits_or_classless hok' hw'
    · obtain ⟨⟨p, p', q, loss, loss', average, hx, hy, hz, -, haverage⟩, -⟩ :=
        forward_stacked hscores htargets hw hw' hsum ha hb
      cases hok.symm.trans hx.reference
      cases hok'.symm.trans hy.reference
      exact ⟨_, hz.reference, haverage⟩
    · -- the batches have the same classes, so that neither has one
      obtain ⟨n, d, rest, hd, hshape⟩ := ha.exists_shape
      cases hscores
      cases hshape
      exact absurd rfl hd
  · cases htargets with
    | distributions htargets =>
      obtain ⟨m, d, y, t', rfl, rfl⟩ := exists_of_softLabelCrossEntropy (A := F) hok'
      cases htargets with
      | mk _ t' =>
        cases hscores
        obtain ⟨p, hp⟩ := softLabelCrossEntropy_classless scores t
        obtain ⟨p', hp'⟩ := softLabelCrossEntropy_classless y t'
        obtain ⟨q, hq⟩ := softLabelCrossEntropy_classless (stack scores y) (stack t t')
        cases hp.symm.trans hok
        cases hp'.symm.trans hok'
        exact ⟨_, hq, by simp⟩

end Batches

/-- **The loss is an average over the batch.** Two accepted batches that have some weight, each and
in all, are accepted one after the other, with the probabilities of both. Their loss, times their
weight in all, is the sum of the losses times the weights, and the gradient is that of both, each
multiplied by its share of the weight. The losses of the references add up in the same way wherever
these accept both. -/
theorem forward_backward_stacked {targets targets' both : Targets F} {x y z : Tensor F}
    (hscores : x.Stacked y z) (htargets : targets.Stacked targets' both)
    (hw : targets.totalWeight ≠ 0) (hw' : targets'.totalWeight ≠ 0)
    (hsum : targets.totalWeight + targets'.totalWeight ≠ 0) :
    (∀ outputs outputs' : List (Tensor F), (softmaxWithLoss targets).forward x = .ok outputs →
      (softmaxWithLoss targets').forward y = .ok outputs' →
        (∃ p p' q loss loss' average, outputs = [p, Tensor.scalar loss] ∧
          outputs' = [p', Tensor.scalar loss'] ∧
          (softmaxWithLoss both).forward z = .ok [q, Tensor.scalar average] ∧ p.Stacked p' q ∧
            (targets.totalWeight + targets'.totalWeight) * average =
              targets.totalWeight * loss + targets'.totalWeight * loss') ∧
        targets.GradientsStacked targets' both x y z) ∧
    ∀ result result' : Tensor F × F, targets.reference x = .ok result →
      targets'.reference y = .ok result' → ∃ total, both.reference z = .ok total ∧
        (targets.totalWeight + targets'.totalWeight) * total.2 =
          targets.totalWeight * result.2 + targets'.totalWeight * result'.2 := by
  constructor
  · intro outputs outputs' hforward hforward'
    obtain ⟨f, ha, -⟩ := forward_eq_ok_iff.mp hforward
    obtain ⟨f', hb, -⟩ := forward_eq_ok_iff.mp hforward'
    obtain ⟨⟨p, p', q, loss, loss', average, hx, hy, hz, hp, haverage⟩, hbackward⟩ :=
      forward_stacked hscores htargets hw hw' hsum ha hb
    cases hforward.symm.trans hx.forward
    cases hforward'.symm.trans hy.forward
    exact ⟨⟨p, p', q, loss, loss', average, rfl, rfl, hz.forward, hp, haverage⟩, hbackward⟩
  · intro result result' hok hok'
    exact reference_stacked hscores htargets hw hw' hsum hok hok'

/-- Two images of two pixels each, the second pixel of the first image ignored. -/
theorem forward_backward_stacked_ignored :
    letI := ExactScalar.rational
    let targets : Targets ℚ := .pixels ⟨[1, 1, 2], #v[0, -1]⟩ (some ⟨[1, 1, 2], #v[3, 5]⟩)
    let targets' : Targets ℚ := .pixels ⟨[1, 1, 2], #v[1, 1]⟩ (some ⟨[1, 1, 2], #v[1, 2]⟩)
    let both : Targets ℚ := .pixels ⟨[2, 1, 2], #v[0, -1, 1, 1]⟩ (some ⟨[2, 1, 2], #v[3, 5, 1, 2]⟩)
    let x : Tensor ℚ := ⟨[1, 2, 1, 2], #v[1, 2, 3, 4]⟩
    let y : Tensor ℚ := ⟨[1, 2, 1, 2], #v[2, 1, 1, 3]⟩
    let z : Tensor ℚ := ⟨[2, 2, 1, 2], #v[1, 2, 3, 4, 2, 1, 1, 3]⟩
    (∃ q average, (softmaxWithLoss both).forward z = .ok [q, Tensor.scalar average] ∧
      6 * average = 3 * (1 / 6) + 3 * (2 / 3)) ∧
    targets.GradientsStacked targets' both x y z ∧
    ∃ total, both.reference z = .ok total ∧ 6 * total.2 = 3 * (1 / 6) + 3 * (2 / 3) := by
  let _ := ExactScalar.rational
  intro targets targets' both x y z
  have hscores : x.Stacked y z := .mk _ _
  have htargets : targets.Stacked targets' both := .pixels (.mk _ _) (.some (.mk _ _))
  let p : Tensor ℚ := ⟨[1, 2, 1, 2], #v[5/6, 5/6, 1/6, 1/6]⟩
  let p' : Tensor ℚ := ⟨[1, 2, 1, 2], #v[1/3, 5/6, 2/3, 1/6]⟩
  have hforward : (softmaxWithLoss targets).forward x = .ok [p, Tensor.scalar (1/6)] := by
    decide +kernel
  have hforward' : (softmaxWithLoss targets').forward y = .ok [p', Tensor.scalar (2/3)] := by
    decide +kernel
  have hreference : targets.reference x = .ok (p, 1/6) := by decide +kernel
  have hreference' : targets'.reference y = .ok (p', 2/3) := by decide +kernel
  have hw : targets.totalWeight = 3 := by decide +kernel
  have hw' : targets'.totalWeight = 3 := by decide +kernel
  have hstacked := forward_backward_stacked hscores htargets
  rw [hw, hw', show (3 : ℚ) + 3 = 6 by norm_num] at hstacked
  obtain ⟨hoperation, htotal⟩ := hstacked (by decide) (by decide) (by decide)
  obtain ⟨⟨_, _, q, _, _, average, hp, hp', hz, -, haverage⟩, hgradients⟩ :=
    hoperation _ _ hforward hforward'
  cases hp
  cases hp'
  exact ⟨⟨q, average, hz, haverage⟩, hgradients, htotal _ _ hreference hreference'⟩

end Operation

end CrossEntropy
