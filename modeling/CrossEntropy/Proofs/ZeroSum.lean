import CrossEntropy.Proofs.ChainRule

/-!
# Gradients without a common part

Softmax ignores a constant that is added to all scores of a distribution. In a field, wherever the
probabilities of a distribution sum to one, no gradient points that way: its entries sum to zero
there, for every output of both operations and whatever the targets and weights are.

* `sum_softmaxBackwardLane`, `sum_gradient`: the gradients of one lane;
* `Split.LocatedBy.sum_join`: sums over the entries at a location;
* **`backward_zeroSum`**: the gradients of both operations for each of their outputs.
-/

namespace CrossEntropy

/-! ## One lane -/

section Lane

/-- The projection takes off just what the out-gradient adds to all scores alike. -/
theorem sum_softmaxBackwardLane {R : Type} [RingScalar R] {d : Nat} {p : Vector R d}
    (hp : ∑ j, p.get j = 1) (g : Vector R d) : ∑ j, (softmaxBackwardLane p g).get j = 0 := by
  have hentry (j : Fin d) : (softmaxBackwardLane p g).get j =
      p.get j * g.get j - p.get j * ∑ i, p.get i * g.get i := by
    rw [get_softmaxBackwardLane, mul_sub]
  calc ∑ j, (softmaxBackwardLane p g).get j
      = ∑ j, p.get j * g.get j - (∑ j, p.get j) * ∑ i, p.get i * g.get i := by
        simp only [hentry, Finset.sum_sub_distrib, Finset.sum_mul]
    _ = 0 := by rw [hp, one_mul, sub_self]

/-- The probabilities are scaled by the very sum of what is taken off them. -/
theorem sum_gradient {F : Type} [ExactScalar F] {n d : Nat} (s : Supervision F n d) (scale : F)
    {p : Vector (Vector F d) n} {l : Fin n} (hp : ∑ c, (p.get l).get c = 1) :
    ∑ c, ((s.gradient scale p).get l).get c = 0 :=
  calc ∑ c, ((s.gradient scale p).get l).get c
      = scale * ((∑ c, (p.get l).get c) * ∑ j, s.demand l j - ∑ c, s.demand l c) := by
        simp only [get_gradient, ← Finset.mul_sum, Finset.sum_sub_distrib, Finset.sum_mul]
    _ = 0 := by rw [hp, one_mul, sub_self, mul_zero]

theorem Split.LocatedBy.sum_join {M : Type} [AddCommMonoid M] {shape : Shape}
    {s : Split (Shape.size shape)} {location : List Nat → List Nat} (h : s.LocatedBy location)
    (b : Vector (Vector M s.classes) s.count) (l : Fin s.count) (c : Fin s.classes) :
    ∑ i ∈ shape.peers location (s.entry l c), (s.join b).get i = ∑ j, (b.get l).get j := by
  rw [h.sum_peers]
  exact Finset.sum_congr rfl fun j _ => s.get_join_entry b l j

end Lane

/-! ## All gradients -/

section Operations

variable {F : Type} [ExactScalar F] {scores : Tensor F} {location : List Nat → List Nat}

/-- An operation has a gradient for every output, and whatever gradient it gives for the scores, its
entries sum to zero at each location where the probabilities `p` sum to one. -/
structure Operation.Cancels (operation : Operation F) (scores : Tensor F)
    (location : List Nat → List Nat) (p : Vector F scores.size) (outputs : List (Tensor F)) :
    Prop where
  returns {output : Nat} {y outGradient : Tensor F} : outputs[output]? = some y →
    outGradient.shape = y.shape →
      ∃ gradient, operation.backward outGradient scores output = .ok gradient
  sum_eq_zero {output : Nat} {outGradient gradient : Tensor F} :
    operation.backward outGradient scores output = .ok gradient →
      ∃ g, gradient = ⟨scores.shape, g⟩ ∧ ∀ k, ∑ i ∈ scores.shape.peers location k, p.get i = 1 →
        ∑ i ∈ scores.shape.peers location k, g.get i = 0

theorem Split.LocatedBy.sum_eq_zero {shape : Shape} {s : Split (Shape.size shape)}
    (h : s.LocatedBy location) {p b : Vector (Vector F s.classes) s.count}
    (hb : ∀ l, ∑ c, (p.get l).get c = 1 → ∑ c, (b.get l).get c = 0) (k : Fin (Shape.size shape))
    (hp : ∑ i ∈ shape.peers location k, (s.join p).get i = 1) :
    ∑ i ∈ shape.peers location k, (s.join b).get i = 0 := by
  obtain ⟨l, c, rfl⟩ : ∃ l c, s.entry l c = k := ⟨_, _, s.entry_laneOf_classOf k⟩
  rw [h.sum_join] at hp ⊢
  exact hb l hp

theorem sum_softmaxBackwardLanes {n d : Nat} {p g : Vector (Vector F d) n} (l : Fin n)
    (hp : ∑ c, (p.get l).get c = 1) : ∑ c, ((softmaxBackwardLanes p g).get l).get c = 0 := by
  rw [softmaxBackwardLanes, get_zipWith]
  exact sum_softmaxBackwardLane hp _

theorem softmax_cancels {axis : Nat} {outputs : List (Tensor F)}
    (h : (softmax axis).forward scores = .ok outputs) :
    ∃ p, outputs = [⟨scores.shape, p⟩] ∧
      (softmax axis).Cancels scores (List.take axis) p outputs := by
  obtain ⟨haxis, hclasses, rfl⟩ := softmax_forward_eq_ok_iff.mp h
  refine ⟨_, rfl, ?_, ?_⟩
  · rintro (_ | output) y ⟨_, g⟩ hy hshape
    · cases hy
      subst hshape
      exact ⟨_, (softmax_backward_eq_ok_iff haxis hclasses).mpr ⟨rfl, g, rfl, rfl⟩⟩
    · cases hy
  · intro output outGradient gradient hbackward
    obtain ⟨-, g, -, rfl⟩ := (softmax_backward_eq_ok_iff haxis hclasses).mp hbackward
    refine ⟨_, rfl, ?_⟩
    apply (Split.flattened_locatedBy scores.shape axis).sum_eq_zero
    intro l hl
    exact sum_softmaxBackwardLanes l hl

variable {D : Type} [Scalar D] [Precision F D]

theorem softmaxWithLoss_cancels {targets : Targets F} {outputs : List (Tensor F)}
    (h : (softmaxWithLoss targets).forward scores = .ok outputs) :
    ∃ p loss, outputs = [⟨scores.shape, p⟩, loss] ∧
      (softmaxWithLoss targets).Cancels scores (List.eraseIdx · 1) p outputs := by
  obtain ⟨f, hf, rfl⟩ := forward_eq_ok_iff.mp h
  refine ⟨_, _, rfl, ?_, ?_⟩
  · rintro (_ | _ | output) y ⟨_, g⟩ hy hshape
    · cases hy
      subst hshape
      exact ⟨_, (softmaxWithLoss_backward_eq_ok_iff hf).mpr (.inl ⟨rfl, g, rfl, rfl⟩)⟩
    · cases hy
      subst hshape
      exact ⟨_, (softmaxWithLoss_backward_eq_ok_iff hf).mpr (.inr ⟨rfl, _, dif_pos rfl, rfl⟩)⟩
    · cases hy
  · intro output outGradient gradient hbackward
    obtain ⟨-, g, -, rfl⟩ | ⟨-, g, -, rfl⟩ :=
      (softmaxWithLoss_backward_eq_ok_iff hf).mp hbackward
    · refine ⟨_, rfl, ?_⟩
      apply hf.locatedBy.2.sum_eq_zero
      intro l hl
      exact sum_softmaxBackwardLanes l hl
    · refine ⟨_, rfl, ?_⟩
      apply hf.locatedBy.2.sum_eq_zero
      intro l hl
      exact sum_gradient _ _ hl

/-- **Gradients sum to zero over every distribution** whose probabilities sum to one: those of
softmax from any axis on, and those of softmax with loss for the probabilities and for the average
loss, at ignored pixels as at others. -/
theorem backward_zeroSum :
    (∀ (axis : Nat) (scores : Tensor F) (outputs : List (Tensor F)),
      (softmax axis).forward scores = .ok outputs → ∃ p, outputs = [⟨scores.shape, p⟩] ∧
        (softmax axis).Cancels scores (List.take axis) p outputs) ∧
    ∀ (targets : Targets F) (scores : Tensor F) (outputs : List (Tensor F)),
      (softmaxWithLoss targets).forward scores = .ok outputs →
        ∃ p loss, outputs = [⟨scores.shape, p⟩, loss] ∧
          (softmaxWithLoss targets).Cancels scores (List.eraseIdx · 1) p outputs := by
  constructor
  · intro axis scores outputs h
    exact softmax_cancels h
  · intro targets scores outputs h
    exact softmaxWithLoss_cancels h

/-- Two rows of two classes, and two pixels of which one is ignored. -/
theorem backward_zeroSum_ignored :
    letI := ExactScalar.rational
    let rows : Tensor ℚ := ⟨[2, 2], #v[1, 3, 2, 1]⟩
    let images : Tensor ℚ := ⟨[1, 2, 1, 2], #v[1, 2, 3, 4]⟩
    let targets : Targets ℚ := .pixels ⟨[1, 1, 2], #v[0, -1]⟩ (some ⟨[1, 1, 2], #v[3, 5]⟩)
    (∃ g, (softmax 1).backward ⟨[2, 2], #v[1, 0, 4, 2]⟩ rows 0 = .ok ⟨rows.shape, g⟩ ∧
      ∀ k, ∑ i ∈ rows.shape.peers (List.take 1) k, g.get i = 0) ∧
    ∃ g, (softmaxWithLoss targets).backward (Tensor.scalar 2) images 1 = .ok ⟨images.shape, g⟩ ∧
      ∀ k, ∑ i ∈ images.shape.peers (List.eraseIdx · 1) k, g.get i = 0 := by
  let _ := ExactScalar.rational
  intro rows images targets
  constructor
  · have hforward : (softmax 1).forward rows =
        .ok [⟨[2, 2], #v[5/6, 1/6, 1/3, 2/3]⟩] := by decide +kernel
    obtain ⟨p, hp, hcancels⟩ := backward_zeroSum.1 1 rows _ hforward
    obtain rfl : #v[5/6, 1/6, 1/3, 2/3] = p := by cases hp; rfl
    obtain ⟨gradient, hbackward⟩ : ∃ gradient,
        (softmax 1).backward ⟨[2, 2], #v[1, 0, 4, 2]⟩ rows 0 = .ok gradient :=
      hcancels.returns rfl rfl
    obtain ⟨g, rfl, hsum⟩ := hcancels.sum_eq_zero hbackward
    exact ⟨g, hbackward, fun k => hsum k (by revert k; decide +kernel)⟩
  · have hforward : (softmaxWithLoss targets).forward images =
        .ok [⟨[1, 2, 1, 2], #v[5/6, 5/6, 1/6, 1/6]⟩, Tensor.scalar (1/6)] := by decide +kernel
    obtain ⟨p, loss, hp, hcancels⟩ := backward_zeroSum.2 targets images _ hforward
    obtain rfl : #v[5/6, 5/6, 1/6, 1/6] = p := by cases hp; rfl
    obtain ⟨gradient, hbackward⟩ : ∃ gradient,
        (softmaxWithLoss targets).backward (Tensor.scalar 2) images 1 = .ok gradient :=
      hcancels.returns rfl rfl
    obtain ⟨g, rfl, hsum⟩ := hcancels.sum_eq_zero hbackward
    exact ⟨g, hbackward, fun k => hsum k (by revert k; decide +kernel)⟩

end Operations

end CrossEntropy
