import CrossEntropy.Proofs.Largest
import CrossEntropy.Proofs.LossSums

/-!
# Classes and examples in another order

In an ordered field nothing depends on where a class or an example stands: the largest score of a
lane, its sums and the totals over lanes are the same in every order. What an operation gives for
scores in another order is what it gave before, in that order.

* `permute`, `permuteLanes`, `Split.rearrange`: vectors, lanes and entries in another order;
* `softmaxLane_permute`, `softmaxBackwardLane_permute`: both passes on a lane with renamed classes;
* `Renamed`, `Targets.Rearranged`: labels, distributions and weights for entries in another order;
* `Supervision.Permuted`: what is asked of the lanes then;
* `Operation.Rearranged`, `Operation.LossRearranged`: outputs and gradients in another order;
* **`forward_backward_rearranged`**: both operations.
-/

namespace CrossEntropy

open Equiv Scalar

/-! ## Vectors in another order -/

section Orders

variable {α : Type} {n d size : Nat}

/-- The entries of a vector in another order: place `k` has what was at place `σ k`. -/
def permute (σ : Perm (Fin n)) (x : Vector α n) : Vector α n :=
  Vector.ofFn fun k => x.get (σ k)

@[simp] theorem get_permute (σ : Perm (Fin n)) (x : Vector α n) (k : Fin n) :
    (permute σ x).get k = x.get (σ k) :=
  Vector.get_ofFn ..

/-- Lanes in another order, each with its classes in an order of its own. -/
def permuteLanes (lanes : Perm (Fin n)) (classes : Fin n → Perm (Fin d))
    (b : Vector (Vector α d) n) : Vector (Vector α d) n :=
  Vector.ofFn fun l => permute (classes l) (b.get (lanes l))

@[simp] theorem get_permuteLanes (lanes : Perm (Fin n)) (classes : Fin n → Perm (Fin d))
    (b : Vector (Vector α d) n) (l : Fin n) :
    (permuteLanes lanes classes b).get l = permute (classes l) (b.get (lanes l)) :=
  Vector.get_ofFn ..

namespace Split

variable (s : Split size) (lanes : Perm (Fin s.count)) (classes : Fin s.count → Perm (Fin s.classes))

/-- Entries with their lanes in another order, and the classes of each lane in an order of its own:
class `c` in lane `l` has the entry that class `classes l c` had in lane `lanes l`. -/
def rearrange (x : Vector α size) : Vector α size :=
  s.join (permuteLanes lanes classes (s.lanes x))

theorem lanes_rearrange (x : Vector α size) :
    s.lanes (s.rearrange lanes classes x) = permuteLanes lanes classes (s.lanes x) :=
  s.lanes_join _

theorem rearrange_join (b : Vector (Vector α s.classes) s.count) :
    s.rearrange lanes classes (s.join b) = s.join (permuteLanes lanes classes b) := by
  rw [rearrange, lanes_join]

end Split

end Orders

/-! ## Both passes on a lane -/

section Lane

variable {F : Type} [ExactScalar F] {d n : Nat} (σ : Perm (Fin d))

theorem total_permute (x : Vector F d) : total (permute σ x) = total x := by
  simp only [total_eq_sum, get_permute]
  exact Equiv.sum_comp σ x.get

theorem softmaxBackwardLane_permute (p g : Vector F d) :
    softmaxBackwardLane (permute σ p) (permute σ g) = permute σ (softmaxBackwardLane p g) := by
  have hprojection : ∑ i, p.get (σ i) * g.get (σ i) = ∑ i, p.get i * g.get i :=
    Equiv.sum_comp σ fun i => p.get i * g.get i
  apply ext_get
  intro c
  simp only [get_softmaxBackwardLane, get_permute, hprojection]

theorem softmaxBackwardLanes_permuteLanes (lanes : Perm (Fin n)) (classes : Fin n → Perm (Fin d))
    (p g : Vector (Vector F d) n) :
    softmaxBackwardLanes (permuteLanes lanes classes p) (permuteLanes lanes classes g) =
      permuteLanes lanes classes (softmaxBackwardLanes p g) := by
  apply ext_get
  intro l
  simp only [softmaxBackwardLanes, get_zipWith, get_permuteLanes, softmaxBackwardLane_permute]

variable [LinearOrder F] [MaximumScalar F]

theorem largest_permute (hd : 0 < d) (x : Vector F d) : largest (permute σ x) = largest x := by
  -- either maximum is an entry, and as such at most the other
  apply le_antisymm
  · obtain ⟨c, hc⟩ := exists_get_eq_largest hd (permute σ x)
    rw [← hc, get_permute]
    exact le_largest x _
  · obtain ⟨c, hc⟩ := exists_get_eq_largest hd x
    have hle := le_largest (permute σ x) (σ.symm c)
    rwa [get_permute, apply_symm_apply, hc] at hle

theorem shiftedExponentials_permute (x : Vector F d) :
    shiftedExponentials (permute σ x) = permute σ (shiftedExponentials x) := by
  apply ext_get
  intro c
  have hlargest : largest (permute σ x) = largest x := largest_permute σ (Nat.zero_lt_of_lt c.isLt) x
  simp only [get_shiftedExponentials, get_permute, hlargest]

/-- **Renamed classes have the probabilities they had.** -/
theorem softmaxLane_permute (x : Vector F d) :
    softmaxLane (permute σ x) = permute σ (softmaxLane x) := by
  apply ext_get
  intro c
  simp only [get_softmaxLane_eq_div, get_permute, shiftedExponentials_permute, total_permute]

theorem softmaxLanes_permuteLanes (lanes : Perm (Fin n)) (classes : Fin n → Perm (Fin d))
    (b : Vector (Vector F d) n) :
    softmaxLanes (permuteLanes lanes classes b) = permuteLanes lanes classes (softmaxLanes b) := by
  apply ext_get
  intro l
  simp only [get_softmaxLanes, get_permuteLanes, softmaxLane_permute]

end Lane

/-! ## Lanes of targets -/

section Supervision

variable {F : Type} [ExactScalar F] {n d : Nat} {lanes : Perm (Fin n)} {classes : Perm (Fin d)}
  {a b : Supervision F n d}

/-- `b` holds against lanes and classes in another order what `a` holds against them. -/
structure Supervision.Permuted (lanes : Perm (Fin n)) (classes : Perm (Fin d))
    (a b : Supervision F n d) : Prop where
  demand (l : Fin n) (c : Fin d) : b.demand l c = a.demand (lanes l) (classes c)
  mass (l : Fin n) : b.mass l = a.mass (lanes l)

namespace Supervision.Permuted

variable (h : a.Permuted lanes classes b)

include h

theorem sum_mass : ∑ l, b.mass l = ∑ l, a.mass l := by
  simp only [h.mass]
  exact Equiv.sum_comp lanes fun l => a.mass l

theorem cost_eq (p : Vector F d) (l : Fin n) : b.cost (permute classes p) l = a.cost p (lanes l) := by
  simp only [cost, h.demand, get_permute]
  exact congrArg Neg.neg
    (Equiv.sum_comp classes fun c => a.demand (lanes l) c * logProbability (p.get c))

theorem average_eq (p : Vector (Vector F d) n) :
    b.average (permuteLanes lanes (fun _ => classes) p) = a.average p := by
  simp only [average, get_permuteLanes, h.cost_eq, h.sum_mass]
  exact congrArg (· / _) (Equiv.sum_comp lanes fun l => a.cost (p.get l) l)

theorem gradient_eq (scale : F) (p : Vector (Vector F d) n) :
    b.gradient scale (permuteLanes lanes (fun _ => classes) p) =
      permuteLanes lanes (fun _ => classes) (a.gradient scale p) := by
  refine ext_get fun l => ext_get fun c => ?_
  have hmass : ∑ j, a.demand (lanes l) (classes j) = ∑ j, a.demand (lanes l) j :=
    Equiv.sum_comp classes fun j => a.demand (lanes l) j
  simp only [get_gradient, get_permuteLanes, get_permute, h.demand, hmass]

end Supervision.Permuted

variable (lanes classes)

theorem permuted_labels (given : Vector (Fin d) n) :
    Supervision.Permuted lanes classes (.labels given : Supervision F n d)
      (.labels (permute lanes (given.map classes.symm))) := by
  constructor
  · intro l c
    simp only [Supervision.demand, get_permute, Vector.get_map, eq_symm_apply]
  · intro l
    rfl

theorem permuted_distributions (t : Vector (Vector F d) n) :
    Supervision.Permuted lanes classes (.distributions t)
      (.distributions (permuteLanes lanes (fun _ => classes) t)) := by
  constructor
  · intro l c
    simp only [Supervision.demand, get_permuteLanes, get_permute]
  · intro l
    rfl

theorem permuted_pixels (marks : Vector (Option (Fin d)) n) {weights weights' : Option (Vector F n)}
    (hweights : ∀ l, weightOf weights' l = weightOf weights (lanes l)) :
    Supervision.Permuted lanes classes (.pixels (weighMarks marks weights))
      (.pixels (weighMarks (permute lanes (marks.map (Option.map classes.symm))) weights')) := by
  constructor
  · intro l c
    have hmark : (marks.get (lanes l)).map classes.symm = some c ↔
        marks.get (lanes l) = some (classes c) := by
      cases marks.get (lanes l) with
      | none => simp
      | some m => simp [symm_apply_eq]
    simp only [demand_pixels, get_permute, Vector.get_map, hmark, hweights]
  · intro l
    simp only [mass_pixels, get_permute, Vector.get_map, Option.map_eq_none_iff, hweights]

end Supervision

/-! ## Targets -/

section Targets

variable {S : Type} [Scalar S] {n d : Nat} {rest : Shape}
  {locations : Perm (Fin (Shape.size (n :: rest)))} {classes : Perm (Fin d)}

/-- What a label becomes: class `classes c` is called `c` now, and the ignored label stays. -/
def Renamed (classes : Perm (Fin d)) (label label' : Int32) : Prop :=
  (label = ignoredLabel ∧ label' = ignoredLabel) ∨
    ∃ c : Fin d, label.toInt = (classes c : Nat) ∧ label'.toInt = (c : Nat)

instance (classes : Perm (Fin d)) (label label' : Int32) :
    Decidable (Renamed classes label label') :=
  inferInstanceAs (Decidable (_ ∨ _))

/-- Two tensors with an entry for each location: `y` has at location `l` what becomes of the entry
of `x` at location `locations l`. -/
inductive Tensor.Reordered {α : Type} (locations : Perm (Fin (Shape.size (n :: rest))))
    (becomes : α → α → Prop) : Tensor α → Tensor α → Prop
  | mk {x y : Vector α (Shape.size (n :: rest))}
      (h : ∀ l, becomes (x.get (locations l)) (y.get l)) :
      Reordered locations becomes ⟨n :: rest, x⟩ ⟨n :: rest, y⟩

/-- The same targets for locations and classes in another order. -/
inductive Targets.Rearranged (locations : Perm (Fin (Shape.size (n :: rest))))
    (classes : Perm (Fin d)) : Targets S → Targets S → Prop
  | labels {given given' : Tensor Int32} (h : given.Reordered locations (Renamed classes) given') :
      Rearranged locations classes (.labels given) (.labels given')
  | distributions (targets : Vector S (Shape.size (n :: d :: rest))) :
      Rearranged locations classes (.distributions ⟨n :: d :: rest, targets⟩)
        (.distributions ⟨n :: d :: rest,
          (Split.classAxis n d rest).rearrange locations (fun _ => classes) targets⟩)
  | pixels {given given' : Tensor Int32} {weights weights' : Option (Tensor S)}
      (h : given.Reordered locations (Renamed classes) given')
      (hweights : Option.Rel (Tensor.Reordered locations Eq) weights weights') :
      Rearranged locations classes (.pixels given weights) (.pixels given' weights')

theorem Renamed.class_eq {label label' : Int32} {c : Fin d} (h : Renamed classes label label')
    (hlabel : classOf? d label = some c) : classOf? d label' = some (classes.symm c) := by
  rw [classOf?_eq_some_iff] at hlabel ⊢
  obtain ⟨rfl, -⟩ | ⟨m, hm, hm'⟩ := h
  · have : ignoredLabel.toInt = -1 := rfl
    omega
  · obtain rfl : classes m = c := Fin.ext (by omega)
    rw [symm_apply_apply, hm']

theorem Renamed.mark_eq {label label' : Int32} {mark : Option (Fin d)}
    (h : Renamed classes label label') (hlabel : markOf? d label = some mark) :
    markOf? d label' = some (mark.map classes.symm) := by
  obtain ⟨rfl, rfl⟩ | ⟨m, hm, hm'⟩ := h
  · rw [markOf?_eq_some_none_iff.mpr rfl, Option.some_inj] at hlabel
    subst hlabel
    exact markOf?_eq_some_none_iff.mpr rfl
  · rw [markOf?_eq_some_some_iff.mpr hm, Option.some_inj] at hlabel
    subst hlabel
    rw [Option.map_some, symm_apply_apply]
    exact markOf?_eq_some_some_iff.mpr hm'

theorem readLabels_renamed {β : Type} {read : Int32 → Option β} {f : β → β} {shape : Shape}
    {labels labels' : Vector Int32 (Shape.size shape)} {readings : Vector β (Shape.size shape)}
    (order : Perm (Fin (Shape.size shape)))
    (hread : readLabels d read ⟨shape, labels⟩ = .ok readings)
    (h : ∀ l b, read (labels.get (order l)) = some b → read (labels'.get l) = some (f b)) :
    readLabels d read ⟨shape, labels'⟩ = .ok (permute order (readings.map f)) := by
  refine readLabels_eq_ok_iff.mpr (ext_get fun l => ?_)
  rw [Vector.get_map, Vector.get_map, get_permute, Vector.get_map]
  exact h l _ (read_get hread (order l))

theorem exists_weights_reordered {order : Perm (Fin (Shape.size (n :: rest)))}
    {weights : Option (Vector S (Shape.size (n :: rest)))} {given : Option (Tensor S)}
    (h : Option.Rel (Tensor.Reordered order Eq) (weights.map (Tensor.mk (n :: rest))) given) :
    ∃ weights' : Option (Vector S (Shape.size (n :: rest))),
      given = weights'.map (Tensor.mk (n :: rest)) ∧
        ∀ l, weightOf weights' l = weightOf weights (order l) := by
  cases weights with
  | none =>
    cases h
    exact ⟨none, rfl, fun l => rfl⟩
  | some weights =>
    obtain ⟨⟨hget⟩⟩ := h
    exact ⟨some _, rfl, fun l => (hget l).symm⟩

variable {F : Type} [ExactScalar F] {targets targets' : Targets F}

/-- Targets in another order fit scores of the same shape, and ask the same of the lanes. -/
theorem Targets.Rearranged.exists_fits (h : targets.Rearranged locations classes targets')
    {a : Supervision F (Split.classAxis n d rest).count d}
    (hf : Fits targets (n :: d :: rest) ⟨Split.classAxis n d rest, a⟩) :
    ∃ b, Fits targets' (n :: d :: rest) ⟨Split.classAxis n d rest, b⟩ ∧
      a.Permuted locations classes b := by
  cases h with
  | labels h =>
    cases hf with
    | labels hd hread =>
      obtain ⟨h⟩ := h
      have hread' := readLabels_renamed locations hread fun l c hc => (h l).class_eq hc
      exact ⟨_, .labels hd hread', permuted_labels locations classes _⟩
  | distributions =>
    cases hf with
    | @distributions _ _ t hd =>
      let s := Split.classAxis n d []
      have hlanes : s.lanes (s.rearrange locations (fun _ => classes) t) =
          permuteLanes locations (fun _ => classes) (s.lanes t) := s.lanes_rearrange ..
      refine ⟨_, .distributions hd, ?_⟩
      exact hlanes ▸ permuted_distributions locations classes (s.lanes t)
  | pixels h hweights =>
    cases hf with
    | pixels hd hread =>
      obtain ⟨h⟩ := h
      obtain ⟨weights', rfl, hweight⟩ := exists_weights_reordered hweights
      have hread' := readLabels_renamed locations hread fun l mark hmark => (h l).mark_eq hmark
      exact ⟨_, .pixels hd hread', permuted_pixels locations classes _ hweight⟩

end Targets

/-! ## Operations -/

section Operations

variable {F : Type} [LinearOrder F] [ExactScalar F] [MaximumScalar F] {shape : Shape}

namespace Split

variable (s : Split (Shape.size shape)) (lanes : Perm (Fin s.count))
  (classes : Fin s.count → Perm (Fin s.classes)) (x g : Vector F (Shape.size shape))

theorem softmaxLanes_rearrange : softmaxLanes (s.lanes (s.rearrange lanes classes x)) =
    permuteLanes lanes classes (softmaxLanes (s.lanes x)) := by
  rw [lanes_rearrange, softmaxLanes_permuteLanes]

theorem softmax_rearrange :
    s.softmax (s.rearrange lanes classes x) = s.rearrange lanes classes (s.softmax x) := by
  rw [softmax, softmax, softmaxLanes_rearrange, rearrange_join]

theorem softmaxBackward_rearrange :
    s.softmaxBackward (s.rearrange lanes classes x) (s.rearrange lanes classes g) =
      s.rearrange lanes classes (s.softmaxBackward x g) := by
  rw [softmaxBackward, softmaxBackward, softmaxLanes_rearrange, lanes_rearrange,
    softmaxBackwardLanes_permuteLanes, rearrange_join]

end Split

/-- What one operation gives for scores, another gives for them in another order: its first output
and the gradients for that output in this order, its other outputs as they are. -/
structure Operation.Rearranged (operation operation' : Operation F) (s : Split (Shape.size shape))
    (lanes : Perm (Fin s.count)) (classes : Fin s.count → Perm (Fin s.classes))
    (x : Vector F (Shape.size shape)) : Prop where
  forward : ∃ p rest, operation.forward ⟨shape, x⟩ = .ok (⟨shape, p⟩ :: rest) ∧
    operation'.forward ⟨shape, s.rearrange lanes classes x⟩ =
      .ok (⟨shape, s.rearrange lanes classes p⟩ :: rest)
  backward (g : Vector F (Shape.size shape)) : ∃ b,
    operation.backward ⟨shape, g⟩ ⟨shape, x⟩ 0 = .ok ⟨shape, b⟩ ∧
      operation'.backward ⟨shape, s.rearrange lanes classes g⟩
        ⟨shape, s.rearrange lanes classes x⟩ 0 = .ok ⟨shape, s.rearrange lanes classes b⟩

theorem softmax_rearranged {axis : Nat} {x : Vector F (Shape.size shape)} {outputs : List (Tensor F)}
    (h : (softmax axis).forward ⟨shape, x⟩ = .ok outputs)
    (lanes : Perm (Fin (Split.flattened shape axis).count))
    (classes : Fin (Split.flattened shape axis).count →
      Perm (Fin (Split.flattened shape axis).classes)) :
    (softmax axis).Rearranged (softmax axis) (Split.flattened shape axis) lanes classes x := by
  obtain ⟨haxis, hclasses, -⟩ := softmax_forward_eq_ok_iff.mp h
  let s := Split.flattened shape axis
  have hforward (y : Vector F (Shape.size shape)) :
      (softmax axis).forward ⟨shape, y⟩ = .ok [⟨shape, s.softmax y⟩] :=
    softmax_forward_eq_ok_iff.mpr ⟨haxis, hclasses, rfl⟩
  have hbackward (y g : Vector F (Shape.size shape)) :
      (softmax axis).backward ⟨shape, g⟩ ⟨shape, y⟩ 0 = .ok ⟨shape, s.softmaxBackward y g⟩ :=
    softmaxBackward_eq ⟨shape, y⟩ haxis hclasses g
  constructor
  · refine ⟨s.softmax x, [], hforward x, ?_⟩
    rw [hforward, s.softmax_rearrange]
  · intro g
    refine ⟨s.softmaxBackward x g, hbackward x g, ?_⟩
    rw [hbackward, s.softmaxBackward_rearrange]

/-- The gradients for the average loss of scores are those of another operation for them in another
order, which is also the order of the gradients. -/
def Operation.LossRearranged (operation operation' : Operation F) (s : Split (Shape.size shape))
    (lanes : Perm (Fin s.count)) (classes : Fin s.count → Perm (Fin s.classes))
    (x : Vector F (Shape.size shape)) : Prop :=
  ∀ (outGradient : Tensor F) (g : F), onlyEntry outGradient = .ok g → ∃ b,
    operation.backward outGradient ⟨shape, x⟩ 1 = .ok ⟨shape, b⟩ ∧
      operation'.backward outGradient ⟨shape, s.rearrange lanes classes x⟩ 1 =
        .ok ⟨shape, s.rearrange lanes classes b⟩

theorem Fits.rearranged {targets targets' : Targets F} {s : Split (Shape.size shape)}
    {lanes : Perm (Fin s.count)} {classes : Perm (Fin s.classes)}
    {a b : Supervision F s.count s.classes} (ha : Fits targets shape ⟨s, a⟩)
    (hb : Fits targets' shape ⟨s, b⟩) (h : a.Permuted lanes classes b)
    (x : Vector F (Shape.size shape)) :
    (softmaxWithLoss targets).Rearranged (softmaxWithLoss targets') s lanes (fun _ => classes) x ∧
      (softmaxWithLoss targets).LossRearranged (softmaxWithLoss targets') s lanes
        (fun _ => classes) x := by
  refine ⟨⟨?_, ?_⟩, ?_⟩
  · refine ⟨_, _, ha.forward_eq x, ?_⟩
    rw [hb.forward_eq, s.softmax_rearrange, s.softmaxLanes_rearrange, h.average_eq]
  · intro g
    refine ⟨_, ha.softmaxOf.backward x g, ?_⟩
    rw [hb.softmaxOf.backward, s.softmaxBackward_rearrange]
  · intro outGradient g hg
    refine ⟨_, ha.lossBackward_eq_join x hg, ?_⟩
    rw [hb.lossBackward_eq_join _ hg, s.softmaxLanes_rearrange, h.gradient_eq, h.sum_mass,
      s.rearrange_join]

/-- **Neither names of classes nor the order of examples matter.** Softmax maps rows in another
order, each with its entries in an order of its own, to its probabilities and gradients in these
orders. With loss, renamed classes and locations in another order leave the average loss as it is.
Probabilities and gradients are those of before under the new names, in the new order. -/
theorem forward_backward_rearranged :
    (∀ (axis : Nat) (shape : Shape) (x : Vector F (Shape.size shape)) (outputs : List (Tensor F)),
      (softmax axis).forward ⟨shape, x⟩ = .ok outputs →
        let s := Split.flattened shape axis
        ∀ (rows : Perm (Fin s.count)) (classes : Fin s.count → Perm (Fin s.classes)),
          (softmax axis).Rearranged (softmax axis) s rows classes x) ∧
    ∀ (n d : Nat) (rest : Shape) (x : Vector F (Shape.size (n :: d :: rest)))
      (targets targets' : Targets F) (locations : Perm (Fin (Shape.size (n :: rest))))
      (classes : Perm (Fin d)) (outputs : List (Tensor F)),
      targets.Rearranged locations classes targets' →
        (softmaxWithLoss targets).forward ⟨n :: d :: rest, x⟩ = .ok outputs →
          let s := Split.classAxis n d rest
          (softmaxWithLoss targets).Rearranged (softmaxWithLoss targets') s locations
              (fun _ => classes) x ∧
            (softmaxWithLoss targets).LossRearranged (softmaxWithLoss targets') s locations
              (fun _ => classes) x := by
  constructor
  · intro axis shape x outputs hforward s rows classes
    exact softmax_rearranged hforward rows classes
  · intro n d rest x targets targets' locations classes outputs h hforward
    obtain ⟨f, hf, -⟩ := forward_eq_ok_iff.mp hforward
    obtain ⟨a, rfl⟩ := hf.eq_classAxis
    obtain ⟨b, hf', hpermuted⟩ := h.exists_fits hf
    exact hf.rearranged hf' hpermuted x

/-- Two rows trade places and the second of them its entries; two pixels, one of them ignored, trade
places, and so do their two classes. -/
theorem forward_backward_rearranged_ignored :
    letI := ExactScalar.rational
    let rows : Vector ℚ (Shape.size [2, 2]) := #v[1, 3, 2, 1]
    let images : Vector ℚ (Shape.size [1, 2, 1, 2]) := #v[1, 2, 3, 4]
    let targets : Targets ℚ := .pixels ⟨[1, 1, 2], #v[0, -1]⟩ (some ⟨[1, 1, 2], #v[3, 5]⟩)
    let targets' : Targets ℚ := .pixels ⟨[1, 1, 2], #v[-1, 1]⟩ (some ⟨[1, 1, 2], #v[5, 3]⟩)
    let s := Split.classAxis 1 2 [1, 2]
    let trade : Perm (Fin 2) := Equiv.swap 0 1
    Tensor.mk [1, 2, 1, 2] (s.rearrange trade (fun _ => trade) images) =
        ⟨[1, 2, 1, 2], #v[4, 3, 2, 1]⟩ ∧
      ((softmax 1).Rearranged (softmax 1) (Split.flattened [2, 2] 1) trade
        (fun l => if l.val = 0 then trade else 1) rows) ∧
      (softmaxWithLoss targets).Rearranged (softmaxWithLoss targets') s trade (fun _ => trade)
        images ∧
      (softmaxWithLoss targets).LossRearranged (softmaxWithLoss targets') s trade (fun _ => trade)
        images := by
  let _ := ExactScalar.rational
  have := ExactScalar.maximumScalar ℚ (fun x => 1 + x * x) (fun x => x - 1) (1 / 100)
  intro rows images targets targets' s trade
  have hrows : (softmax 1).forward ⟨[2, 2], rows⟩ =
      .ok [⟨[2, 2], #v[5/6, 1/6, 1/3, 2/3]⟩] := by decide +kernel
  have himages : (softmaxWithLoss targets).forward ⟨[1, 2, 1, 2], images⟩ =
      .ok [⟨[1, 2, 1, 2], #v[5/6, 5/6, 1/6, 1/6]⟩, Tensor.scalar (1/6)] := by decide +kernel
  have htargets : @Targets.Rearranged ℚ 1 2 [1, 2] trade trade targets targets' := by
    have hlabels (l : Fin 2) : Renamed trade (#v[0, -1].get (trade l)) (#v[-1, 1].get l) := by
      revert l
      decide +kernel
    have hweights (l : Fin 2) : (#v[3, 5] : Vector ℚ 2).get (trade l) = #v[5, 3].get l := by
      revert l
      decide +kernel
    exact .pixels ⟨hlabels⟩ (.some ⟨hweights⟩)
  exact ⟨by decide +kernel, forward_backward_rearranged.1 1 [2, 2] rows _ hrows trade _,
    forward_backward_rearranged.2 1 2 [1, 2] images targets targets' trade trade _ htargets himages⟩

end Operations

end CrossEntropy
