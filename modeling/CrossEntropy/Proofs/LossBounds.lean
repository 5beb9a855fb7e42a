import CrossEntropy.Proofs.Acceptance
import CrossEntropy.Proofs.LossSums
import CrossEntropy.Proofs.Simplex

/-!
# Bounds of the loss

In an ordered field, with lawful `exp` and `ln`, a probability costs at least nothing and at most
what the floor under all probabilities does. The average loss is within the same bounds for targets
that ask for no more than their weight; if these are labels, it lies between the least and the
greatest cost of a location that counts.

* `neg_logProbability_nonneg`, `neg_logProbability_le`: what one probability costs;
* `le_average`, `average_le`: bounds of every lane bound the average;
* `Supervision.Moderate`, `Supervision.LabelledBy`: nothing beyond its weight is asked of a lane, or
  all of it of one class;
* `Targets.Averages`, `Targets.LabelCost`: targets with something to average, and their costs;
* **`loss_within_bounds`**: the loss of the operation and of its references.
-/

namespace CrossEntropy

open Scalar

variable {F : Type} [LinearOrder F] [ExactScalar F]

/-! ## One probability -/

section Cost

variable [MaximumScalar F] [LawfulLn F]

omit [LawfulLn F] in
theorem logProbability_eq (q : F) : logProbability q = ln (max q logFloor) :=
  congrArg ln (MaximumScalar.larger_eq_max q logFloor)

theorem neg_logProbability_nonneg {q : F} (hq : q ≤ 1) : 0 ≤ -logProbability q := by
  have := MaximumScalar.toIsStrictOrderedRing (F := F)
  have hpos : 0 < max q logFloor := lt_max_of_lt_right LawfulLn.logFloor_pos
  rw [neg_nonneg, logProbability_eq, ← LawfulLn.ln_one]
  exact LawfulLn.ln_le_ln hpos (max_le hq LawfulLn.logFloor_le_one)

theorem neg_logProbability_le (q : F) : -logProbability q ≤ -ln (logFloor : F) := by
  have := MaximumScalar.toIsStrictOrderedRing (F := F)
  rw [neg_le_neg_iff, logProbability_eq]
  exact LawfulLn.ln_le_ln LawfulLn.logFloor_pos (le_max_right _ _)

theorem neg_ln_logFloor_nonneg : 0 ≤ -ln (logFloor : F) :=
  have := MaximumScalar.toIsStrictOrderedRing (F := F)
  (neg_logProbability_nonneg zero_le_one).trans (neg_logProbability_le 0)

end Cost

/-! ## What is asked of lanes -/

section Demand

variable {n d : Nat} {a : Supervision F n d}

/-- Nothing negative is asked of the classes of a lane, and in all no more than its weight. -/
structure Supervision.Moderate (a : Supervision F n d) : Prop where
  demand_nonneg (l : Fin n) (c : Fin d) : 0 ≤ a.demand l c
  sum_demand_le (l : Fin n) : ∑ c, a.demand l c ≤ a.mass l

/-- All that is asked of a lane is its whole weight, of the class that it is labelled with. -/
structure Supervision.LabelledBy (a : Supervision F n d) (label : Fin n → Option (Fin d)) :
    Prop where
  mass_nonneg (l : Fin n) : 0 ≤ a.mass l
  mass_eq_zero {l : Fin n} (h : label l = none) : a.mass l = 0
  demand_eq (l : Fin n) (c : Fin d) : a.demand l c = if label l = some c then a.mass l else 0

namespace Supervision.LabelledBy

variable {label : Fin n → Option (Fin d)} (h : a.LabelledBy label)

include h

theorem moderate : a.Moderate := by
  constructor
  · intro l c
    rw [h.demand_eq]
    split_ifs
    · exact h.mass_nonneg l
    · exact le_rfl
  · intro l
    simp only [h.demand_eq]
    cases label l with
    | none => simpa using h.mass_nonneg l
    | some m => simp

theorem cost_eq {l : Fin n} {c : Fin d} (hl : label l = some c) (q : Vector F d) :
    a.cost q l = -logProbability (q.get c) * a.mass l := by
  rw [cost_eq_sum]
  simp [h.demand_eq, hl, mul_comm]

theorem cost_eq_zero {l : Fin n} (hl : label l = none) (q : Vector F d) : a.cost q l = 0 := by
  rw [cost_eq_sum]
  simp [h.demand_eq, hl]

end Supervision.LabelledBy

end Demand

/-! ## Averages over lanes -/

section Average

variable [IsStrictOrderedRing F] {n d : Nat} {a : Supervision F n d} {p : Vector (Vector F d) n}
  {b : F}

theorem le_average (hmass : 0 < ∑ l, a.mass l) (h : ∀ l, b * a.mass l ≤ a.cost (p.get l) l) :
    b ≤ a.average p := by
  rw [Supervision.average, le_div_iff₀ hmass, Finset.mul_sum]
  exact Finset.sum_le_sum fun l _ => h l

theorem average_le (hmass : 0 < ∑ l, a.mass l) (h : ∀ l, a.cost (p.get l) l ≤ b * a.mass l) :
    a.average p ≤ b := by
  rw [Supervision.average, div_le_iff₀ hmass, Finset.mul_sum]
  exact Finset.sum_le_sum fun l _ => h l

namespace Supervision.LabelledBy

variable {label : Fin n → Option (Fin d)} (h : a.LabelledBy label) (hmass : 0 < ∑ l, a.mass l)

include h hmass

theorem le_average
    (hb : ∀ l c, label l = some c → b ≤ -logProbability ((p.get l).get c)) : b ≤ a.average p := by
  refine CrossEntropy.le_average hmass fun l => ?_
  cases hl : label l with
  | none => simp [h.cost_eq_zero hl, h.mass_eq_zero hl]
  | some c =>
    rw [h.cost_eq hl]
    exact mul_le_mul_of_nonneg_right (hb l c hl) (h.mass_nonneg l)

theorem average_le
    (hb : ∀ l c, label l = some c → -logProbability ((p.get l).get c) ≤ b) : a.average p ≤ b := by
  refine CrossEntropy.average_le hmass fun l => ?_
  cases hl : label l with
  | none => simp [h.cost_eq_zero hl, h.mass_eq_zero hl]
  | some c =>
    rw [h.cost_eq hl]
    exact mul_le_mul_of_nonneg_right (hb l c hl) (h.mass_nonneg l)

/-- **The average lies between the least and the greatest cost** of a labelled lane. -/
theorem average_between (p : Vector (Vector F d) n) :
    ∃ least greatest,
      IsLeast {v | ∃ l c, label l = some c ∧ -logProbability ((p.get l).get c) = v} least ∧
      IsGreatest {v | ∃ l c, label l = some c ∧ -logProbability ((p.get l).get c) = v} greatest ∧
      least ≤ a.average p ∧ a.average p ≤ greatest := by
  let labelled : Finset (Fin n × Fin d) := {i | label i.1 = some i.2}
  let cost (i : Fin n × Fin d) : F := -logProbability ((p.get i.1).get i.2)
  have hmem {i} : i ∈ labelled ↔ label i.1 = some i.2 := by simp [labelled]
  have hsome : labelled.Nonempty := by
    obtain ⟨l, -, hl⟩ := Finset.exists_ne_zero_of_sum_ne_zero hmass.ne'
    obtain ⟨c, hc⟩ := Option.ne_none_iff_exists'.mp (mt h.mass_eq_zero hl)
    exact ⟨(l, c), hmem.mpr hc⟩
  obtain ⟨i, hi, hleast⟩ := labelled.exists_min_image cost hsome
  obtain ⟨j, hj, hgreatest⟩ := labelled.exists_max_image cost hsome
  have hlower (l c) (hl : label l = some c) : cost i ≤ cost (l, c) := hleast _ (hmem.mpr hl)
  have hupper (l c) (hl : label l = some c) : cost (l, c) ≤ cost j := hgreatest _ (hmem.mpr hl)
  refine ⟨cost i, cost j, ⟨⟨i.1, i.2, hmem.mp hi, rfl⟩, ?_⟩, ⟨⟨j.1, j.2, hmem.mp hj, rfl⟩, ?_⟩,
    h.le_average hmass hlower, h.average_le hmass hupper⟩
  · rintro _ ⟨l, c, hl, rfl⟩
    exact hlower l c hl
  · rintro _ ⟨l, c, hl, rfl⟩
    exact hupper l c hl

end Supervision.LabelledBy

end Average

section Moderate

variable [MaximumScalar F] [LawfulLn F] {n d : Nat} {a : Supervision F n d}

/-- **The average lies between nothing and the cost of the floor.** -/
theorem Supervision.Moderate.average_within (h : a.Moderate) (hmass : 0 < ∑ l, a.mass l)
    {p : Vector (Vector F d) n} (hp : ∀ l c, (p.get l).get c ≤ 1) :
    0 ≤ a.average p ∧ a.average p ≤ -ln (logFloor : F) := by
  have := MaximumScalar.toIsStrictOrderedRing (F := F)
  constructor
  · refine le_average hmass fun l => ?_
    rw [zero_mul, cost_eq_sum]
    exact Finset.sum_nonneg fun c _ =>
      mul_nonneg (h.demand_nonneg l c) (neg_logProbability_nonneg (hp l c))
  · refine average_le hmass fun l => ?_
    calc a.cost (p.get l) l = ∑ c, a.demand l c * -logProbability ((p.get l).get c) :=
          cost_eq_sum a _ l
      _ ≤ ∑ c, a.demand l c * -ln logFloor := Finset.sum_le_sum fun c _ =>
          mul_le_mul_of_nonneg_left (neg_logProbability_le _) (h.demand_nonneg l c)
      _ = -ln logFloor * ∑ c, a.demand l c := by rw [← Finset.sum_mul, mul_comm]
      _ ≤ -ln logFloor * a.mass l :=
          mul_le_mul_of_nonneg_left (h.sum_demand_le l) neg_ln_logFloor_nonneg

end Moderate

/-! ## Targets -/

/-- There is something to average over: a row against a label or a distribution, which may fall
short of one, or a pixel that is not ignored. Pixels that count have no negative weights, and some
weight in all. -/
inductive Targets.Averages : Targets F → Prop
  | labels {n : Nat} {given : Vector Int32 (Shape.size [n])} (hn : n ≠ 0) :
      Averages (.labels ⟨[n], given⟩)
  | distributions {n d : Nat} {t : Vector F (Shape.size [n, d])} (hn : n ≠ 0)
      (hnonneg : ∀ i c, 0 ≤ Reference.byClass t i c)
      (hsum : ∀ i, ∑ c, Reference.byClass t i c ≤ 1) : Averages (.distributions ⟨[n, d], t⟩)
  | counted {shape : Shape} {given : Vector Int32 (Shape.size shape)} {k : Fin (Shape.size shape)}
      (hk : given.get k ≠ ignoredLabel) : Averages (.pixels ⟨shape, given⟩ none)
  | weighted {shape : Shape} {given : Vector Int32 (Shape.size shape)}
      {weights : Vector F (Shape.size shape)}
      (hnonneg : ∀ k, given.get k ≠ ignoredLabel → 0 ≤ weights.get k)
      (hpos : 0 < ∑ k, if given.get k = ignoredLabel then 0 else weights.get k) :
      Averages (.pixels ⟨shape, given⟩ (some ⟨shape, weights⟩))

/-- What the probability of a labelled class costs, at a location that counts. -/
def Targets.LabelCost (targets : Targets F) (p : Tensor F) (v : F) : Prop :=
  ∃ given ∈ targets.labels?, ∃ (k : Fin given.size) (c : Nat) (q : F),
    (given.entries.get k).toInt = c ∧ p.at? ((given.index k).insertIdx 1 c) = some q ∧
      -logProbability q = v

/-- An average loss of probabilities is not negative, and no greater than what the floor costs. If
the targets are labels, it lies between the least and the greatest cost of a location that
counts. -/
structure Targets.LossWithin (targets : Targets F) (p : Tensor F) (loss : F) : Prop where
  nonneg : 0 ≤ loss
  le_floor : loss ≤ -ln logFloor
  between : targets.labels?.isSome = true → ∃ least greatest,
    IsLeast {v | targets.LabelCost p v} least ∧ IsGreatest {v | targets.LabelCost p v} greatest ∧
      least ≤ loss ∧ loss ≤ greatest

/-! ## Targets of lanes -/

section Lanes

variable [IsStrictOrderedRing F] {n d : Nat}

theorem labelledBy_labels (classes : Vector (Fin d) n) :
    (Supervision.labels classes : Supervision F n d).LabelledBy fun l => some (classes.get l) where
  mass_nonneg _ := zero_le_one
  mass_eq_zero h := by simp at h
  demand_eq l c := by simp only [Supervision.demand, Supervision.mass, Option.some_inj, eq_comm]

omit [IsStrictOrderedRing F] in
theorem labelledBy_pixels {marks : Vector (Option (Fin d)) n} {weights : Option (Vector F n)}
    (h : ∀ l, marks.get l ≠ none → 0 ≤ weightOf weights l) :
    (Supervision.pixels (weighMarks marks weights)).LabelledBy marks.get where
  mass_nonneg l := by
    rw [mass_pixels]
    split_ifs with hl
    · exact le_rfl
    · exact h l hl
  mass_eq_zero hl := by rw [mass_pixels, if_pos hl]
  demand_eq l c := by
    rw [demand_pixels, mass_pixels]
    refine if_ctx_congr Iff.rfl (fun hl => ?_) fun _ => rfl
    rw [if_neg (by simp [hl])]

omit [IsStrictOrderedRing F] in
theorem moderate_distributions {t : Vector F (Shape.size [n, d])}
    (hnonneg : ∀ i c, 0 ≤ Reference.byClass t i c)
    (hsum : ∀ i, ∑ c, Reference.byClass t i c ≤ 1) :
    (Supervision.distributions ((Split.classAxis n d []).lanes t)).Moderate := by
  have hdemand (l : Fin (Split.classAxis n d []).count) (c : Fin d) :
      (Supervision.distributions ((Split.classAxis n d []).lanes t)).demand l c =
        Reference.byClass t (l.cast (Nat.mul_one n)) c :=
    ((Split.classAxis n d []).get_lanes t l c).trans
      (get_entry_rowLane t (l.cast (Nat.mul_one n)) c)
  constructor
  · intro l c
    exact (hnonneg _ c).trans_eq (hdemand l c).symm
  · intro l
    exact (Finset.sum_congr rfl fun c _ => hdemand l c).trans_le (hsum _)

end Lanes

/-! ## Costs of labels -/

section Labels

variable {n d : Nat} {rest : Shape} {targets : Targets F}
  {given : Vector Int32 (Shape.size (n :: rest))}
  {label : Fin (Shape.size (n :: rest)) → Option (Fin d)}

omit [LinearOrder F] in
theorem labelCost_iff (hlabels : targets.labels? = some ⟨n :: rest, given⟩)
    (hnone : ∀ l, label l = none → (given.get l).toInt < 0)
    (hsome : ∀ l c, label l = some c → (given.get l).toInt = (c : Nat))
    (p : Vector F (Shape.size (n :: d :: rest))) (v : F) :
    targets.LabelCost ⟨n :: d :: rest, p⟩ v ↔ ∃ l c, label l = some c ∧
      -logProbability (p.get ((Split.classAxis n d rest).entry l c)) = v := by
  have hat (l : Fin (Split.classAxis n d rest).count) (c : Fin d) :
      Tensor.at? ⟨n :: d :: rest, p⟩ ((Shape.unravel (n :: rest) l).insertIdx 1 c.val) =
        some (p.get ((Split.classAxis n d rest).entry l c)) := by
    rw [insertIdx_location]
    exact Tensor.at?_index ⟨n :: d :: rest, p⟩ _
  constructor
  · rintro ⟨_, hgiven, k, c, q, hc, hq, rfl⟩
    cases hlabels.symm.trans hgiven
    have hnumber : (given.get k).toInt = c := hc
    obtain ⟨m, hm⟩ : ∃ m, label k = some m := by
      refine Option.ne_none_iff_exists'.mp fun hk => ?_
      have := hnone k hk
      omega
    have hcm : c = m := by
      have := hsome k m hm
      omega
    subst hcm
    cases (hat k m).symm.trans hq
    exact ⟨k, m, hm, rfl⟩
  · rintro ⟨l, c, hl, rfl⟩
    exact ⟨_, hlabels, l, c, _, hsome l c hl, hat l c, rfl⟩

end Labels

section Within

variable [MaximumScalar F] [LawfulExp F] [LawfulLn F] {n d : Nat} {rest : Shape}
  {targets : Targets F}

omit [LawfulLn F] in
theorem softmaxLanes_le_one {m : Nat} (hd : d ≠ 0) (x : Vector (Vector F d) m) (l : Fin m)
    (c : Fin d) : ((softmaxLanes x).get l).get c ≤ 1 := by
  have := MaximumScalar.toIsStrictOrderedRing (F := F)
  have hsimplex := softmaxLane_isSimplex (Nat.pos_of_ne_zero hd) (x.get l)
  rw [get_softmaxLanes, ← hsimplex.sum_eq_one]
  exact Finset.single_le_sum (fun j _ => hsimplex.nonneg j) (Finset.mem_univ c)

/-- **The bounds of the loss against labels.** -/
theorem lossWithin_of_labelledBy {given : Vector Int32 (Shape.size (n :: rest))}
    {label : Fin (Shape.size (n :: rest)) → Option (Fin d)}
    {a : Supervision F (Split.classAxis n d rest).count d} (hd : d ≠ 0)
    (hlabels : targets.labels? = some ⟨n :: rest, given⟩) (h : a.LabelledBy label)
    (hnone : ∀ l, label l = none → (given.get l).toInt < 0)
    (hsome : ∀ l c, label l = some c → (given.get l).toInt = (c : Nat))
    (hmass : 0 < ∑ l, a.mass l) (x : Vector F (Shape.size (n :: d :: rest))) :
    targets.LossWithin ⟨n :: d :: rest, (Split.classAxis n d rest).softmax x⟩
      (a.average (softmaxLanes ((Split.classAxis n d rest).lanes x))) := by
  have := MaximumScalar.toIsStrictOrderedRing (F := F)
  let s := Split.classAxis n d rest
  obtain ⟨hnonneg, hfloor⟩ :=
    h.moderate.average_within hmass (softmaxLanes_le_one hd (s.lanes x))
  refine ⟨hnonneg, hfloor, fun _ => ?_⟩
  have hcosts : {v | targets.LabelCost ⟨n :: d :: rest, s.softmax x⟩ v} =
      {v | ∃ l c, label l = some c ∧
        -logProbability (((softmaxLanes (s.lanes x)).get l).get c) = v} := by
    ext v
    refine (labelCost_iff hlabels hnone hsome (s.softmax x) v).trans ?_
    refine exists_congr fun l => exists_congr fun c => and_congr_right fun _ => ?_
    exact iff_of_eq (congrArg (-logProbability · = v) (s.get_join_entry _ l c))
  rw [hcosts]
  exact h.average_between hmass _

end Within

/-! ## The loss -/

section Averages

variable {targets : Targets F}

theorem Targets.Averages.totalWeight_pos [IsStrictOrderedRing F] (h : targets.Averages) :
    0 < targets.totalWeight := by
  cases h with
  | @labels n given hn =>
    have hsize : 0 < Shape.size [n] := by simpa using Nat.pos_of_ne_zero hn
    exact Nat.cast_pos.mpr hsize
  | distributions hn => exact Nat.cast_pos.mpr (Nat.pos_of_ne_zero hn)
  | @counted shape given k hk =>
    refine lt_of_lt_of_eq ?_ (totalWeight_pixels given none).symm
    refine Finset.sum_pos' (fun k _ => ?_) ⟨k, Finset.mem_univ k, ?_⟩
    · split_ifs
      · exact le_rfl
      · exact zero_le_one
    · rw [if_neg hk]
      exact zero_lt_one
  | @weighted shape given weights _ hpos =>
    exact hpos.trans_eq (totalWeight_pixels given (some weights)).symm

theorem Targets.Averages.weightOf_nonneg [IsStrictOrderedRing F] {shape : Shape}
    {given : Vector Int32 (Shape.size shape)} {weights : Option (Vector F (Shape.size shape))}
    (h : (Targets.pixels ⟨shape, given⟩ (weights.map (Tensor.mk shape))).Averages)
    {k : Fin (Shape.size shape)} (hk : given.get k ≠ ignoredLabel) : 0 ≤ weightOf weights k := by
  cases weights with
  | none => exact zero_le_one
  | some weights =>
    cases h with
    | weighted hnonneg => exact hnonneg k hk

variable [MaximumScalar F] [LawfulExp F] [LawfulLn F]

theorem Fits.lossWithin {shape : Shape} {s : Split (Shape.size shape)}
    {a : Supervision F s.count s.classes} (hf : Fits targets shape ⟨s, a⟩) (h : targets.Averages)
    (x : Vector F (Shape.size shape)) :
    targets.LossWithin ⟨shape, s.softmax x⟩ (a.average (softmaxLanes (s.lanes x))) := by
  have := MaximumScalar.toIsStrictOrderedRing (F := F)
  have hmass : 0 < ∑ l, a.mass l := h.totalWeight_pos.trans_eq (hf.totalWeight_eq_sum x)
  cases hf with
  | @labels n d given classes hd hread =>
    refine lossWithin_of_labelledBy hd rfl (labelledBy_labels classes) ?_ ?_ hmass x
    · intro l hl
      simp at hl
    · intro l c hl
      exact (toInt_eq_iff_class hread l c).mpr (Option.some_inj.mp hl).symm
  | @distributions n d t hd =>
    cases h with
    | distributions _ hnonneg hsum =>
      have hmoderate := moderate_distributions hnonneg hsum
      obtain ⟨hlower, hupper⟩ := hmoderate.average_within hmass (softmaxLanes_le_one hd _)
      exact ⟨hlower, hupper, fun hlabels => by cases hlabels⟩
  | @pixels n d height width given marks weights hd hread =>
    have hmark {l} : marks.get l = none ↔ given.get l = ignoredLabel :=
      (eq_ignored_iff_mark hread l).symm
    have hlabelled : (Supervision.pixels (weighMarks marks weights)).LabelledBy marks.get :=
      labelledBy_pixels fun l hl => h.weightOf_nonneg (mt hmark.mpr hl)
    refine lossWithin_of_labelledBy hd rfl hlabelled ?_ ?_ hmass x
    · intro l hl
      rw [hmark.mp hl]
      decide
    · intro l c hl
      exact (toInt_eq_iff_mark hread l c).mpr hl

/-- **The loss is bounded.** Where there is something to average over, the average loss of every
scores that the operation accepts lies between nothing and the cost of the floor, and against labels
between the least and the greatest cost of a location that counts. So does the loss of the
reference, for all scores that the reference accepts. -/
theorem loss_within_bounds (h : targets.Averages) :
    (∀ (scores : Tensor F) (outputs : List (Tensor F)),
      (softmaxWithLoss targets).forward scores = .ok outputs →
        ∃ p loss, outputs = [p, Tensor.scalar loss] ∧ targets.LossWithin p loss) ∧
    ∀ (scores p : Tensor F) (loss : F), targets.reference scores = .ok (p, loss) →
      targets.LossWithin p loss := by
  have := MaximumScalar.toIsStrictOrderedRing (F := F)
  constructor
  · intro scores outputs hforward
    obtain ⟨f, hf, -⟩ := forward_eq_ok_iff.mp hforward
    cases hforward.symm.trans (hf.forward_eq scores.entries)
    exact ⟨_, _, rfl, hf.lossWithin h scores.entries⟩
  · intro scores p loss hreference
    obtain ⟨f, hf⟩ | ⟨n, x, t, rfl, rfl⟩ := fits_or_classless hreference h.totalWeight_pos.ne'
    · cases hreference.symm.trans (hf.reference_eq scores.entries)
      exact hf.lossWithin h scores.entries
    · -- the loss over no classes is zero
      obtain ⟨q, hq⟩ := softLabelCrossEntropy_classless x t
      cases hreference.symm.trans hq
      exact ⟨le_rfl, neg_ln_logFloor_nonneg, fun hlabels => by cases hlabels⟩

/-- Real scores of two pixels, the first of weight three, the second ignored. -/
theorem loss_within_bounds_real :
    letI := ExactScalar.real
    let scores : Tensor ℝ := ⟨[1, 2, 1, 2], #v[1, 2, 3, 4]⟩
    let targets : Targets ℝ := .pixels ⟨[1, 1, 2], #v[0, -1]⟩ (some ⟨[1, 1, 2], #v[3, 5]⟩)
    (∃ p loss, (softmaxWithLoss targets).forward scores = .ok [p, Tensor.scalar loss] ∧
      targets.LossWithin p loss) ∧
    ∃ p loss, targets.reference scores = .ok (p, loss) ∧ targets.LossWithin p loss := by
  let _ := ExactScalar.real
  have := lawfulExp_real
  have := lawfulLn_real
  have := ExactScalar.maximumScalar ℝ Real.exp Real.log (1 / 100)
  intro scores targets
  have hread : readLabels 2 (markOf? 2) ⟨[1, 1, 2], #v[0, -1]⟩ = .ok #v[some 0, none] :=
    readLabels_eq_ok_iff.mpr (by decide +kernel)
  have hfits : Fits targets scores.shape _ :=
    @Fits.pixels ℝ _ 1 2 1 2 #v[0, -1] #v[some 0, none] (some #v[3, 5]) (by decide) hread
  have hpositive (k : Fin 2) : 0 < (#v[3, 5] : Vector ℝ 2).get k := by
    fin_cases k
    · exact show (0 : ℝ) < 3 by norm_num
    · exact show (0 : ℝ) < 5 by norm_num
  have hcounted : (#v[0, -1] : Vector Int32 2).get 0 ≠ ignoredLabel := by decide
  have haverages : targets.Averages := by
    refine .weighted (fun k _ => (hpositive k).le) ?_
    refine Finset.sum_pos' (fun k _ => ?_) ⟨(0 : Fin 2), Finset.mem_univ _, ?_⟩
    · split_ifs
      · exact le_rfl
      · exact (hpositive k).le
    · exact (hpositive 0).trans_eq (if_neg hcounted).symm
  have hforward := hfits.forward_eq scores.entries
  have hreference := hfits.reference_eq scores.entries
  obtain ⟨hoperation, hreferences⟩ := loss_within_bounds haverages
  obtain ⟨p, loss, houtputs, hwithin⟩ := hoperation scores _ hforward
  refine ⟨⟨p, loss, ?_, hwithin⟩, _, _, hreference, hreferences scores _ _ hreference⟩
  rw [← houtputs]
  exact hforward

end Averages

end CrossEntropy
