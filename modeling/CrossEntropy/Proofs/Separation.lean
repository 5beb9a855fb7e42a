import CrossEntropy.Proofs.Location
import CrossEntropy.Proofs.Exact
import CrossEntropy.Proofs.Labels
import CrossEntropy.Proofs.Probabilities

/-!
# Distributions apart

What is computed for one distribution depends on its own scores, on its own target, and on nothing
else but the total weight. No law of arithmetic is assumed.

* `Split.LocatedBy.lane_congr`: agreement at a location is agreement of a lane;
* `Operation.AgreeAt`, `Operation.SoftmaxOf.agreeAt`: probabilities, and gradients by them;
* `Targets.AgreeAt`, `Supervision.AgreeAt`: targets that are the same at a location, and in a lane;
* `Targets.AgreeAt.supervision`: from the one to the other;
* `lossBackward_agreeAt`: the gradient of the loss at a location;
* **`distributions_independent`**: both operations, on two inputs with one distribution in common.
-/

namespace CrossEntropy

open Scalar Precision

variable {S : Type} [Scalar S]

/-! ## Probabilities -/

/-- Two operations, each on its own scores, have the same probabilities at some places, and the same
gradient by them there for out-gradients that agree at these places. -/
structure Operation.AgreeAt (operation operation' : Operation S) (scores scores' : Tensor S)
    (places : List Nat → Prop) : Prop where
  forward : ∃ p p' rest rest', operation.forward scores = .ok (p :: rest) ∧
    operation'.forward scores' = .ok (p' :: rest') ∧ p.AgreeOn places p'
  backward {outGradient outGradient' : Tensor S} : outGradient.shape = scores.shape →
    outGradient.AgreeOn places outGradient' → ∃ gradient gradient',
      operation.backward outGradient scores 0 = .ok gradient ∧
        operation'.backward outGradient' scores' 0 = .ok gradient' ∧
          gradient.AgreeOn places gradient'

theorem Split.LocatedBy.lane_congr {α : Type} {shape : Shape} {s : Split (Shape.size shape)}
    {location : List Nat → List Nat} {place : List Nat} (hs : s.LocatedBy location)
    {x y : Vector α (Shape.size shape)}
    (hxy : Tensor.AgreeOn (location · = place) ⟨shape, x⟩ ⟨shape, y⟩) {l : Fin s.count}
    {c : Fin s.classes} (hl : location (shape.unravel (s.entry l c)) = place) :
    (s.lanes x).get l = (s.lanes y).get l :=
  Split.lanes_congr hxy fun c' => (hs.location_entry l c' c).trans hl

theorem Operation.SoftmaxOf.agreeAt {operation operation' : Operation S} {shape : Shape}
    {s : Split (Shape.size shape)} {location : List Nat → List Nat} {place : List Nat}
    (h : operation.SoftmaxOf s) (h' : operation'.SoftmaxOf s) (hs : s.LocatedBy location)
    {x : Vector S (Shape.size shape)} {scores' : Tensor S}
    (hx : Tensor.AgreeOn (location · = place) ⟨shape, x⟩ scores') :
    operation.AgreeAt operation' ⟨shape, x⟩ scores' (location · = place) := by
  obtain ⟨shape', x'⟩ := scores'
  obtain rfl : shape = shape' := hx.1
  have hlane {l c} (hl : location (shape.unravel (s.entry l c)) = place) :
      (softmaxLanes (s.lanes x)).get l = (softmaxLanes (s.lanes x')).get l := by
    rw [get_softmaxLanes, get_softmaxLanes, hs.lane_congr hx hl]
  constructor
  · obtain ⟨rest, hforward⟩ := h.forward x
    obtain ⟨rest', hforward'⟩ := h'.forward x'
    exact ⟨_, _, rest, rest', hforward, hforward', Split.agreeOn_join fun l c hl => hlane hl⟩
  · intro outGradient outGradient' hshape hg
    obtain ⟨given, g⟩ := outGradient
    obtain ⟨given', g'⟩ := outGradient'
    obtain rfl : shape = given := hshape.symm
    obtain rfl : shape = given' := hg.1
    refine ⟨_, _, h.backward x g, h'.backward x' g', Split.agreeOn_join fun l c hl => ?_⟩
    rw [softmaxBackwardLanes, softmaxBackwardLanes, get_zipWith, get_zipWith, hlane hl,
      hs.lane_congr hg hl]

/-! ## Targets at a place -/

/-- The weight at a location, one where no weights are given. -/
def weightAt? (weights : Option (Tensor S)) (place : List Nat) : Option S :=
  weights.elim (some 1) (·.at? place)

/-- Two targets of one kind that are the same at a location: its label, its distribution, or its
label and its weight. -/
inductive Targets.AgreeAt (place : List Nat) : Targets S → Targets S → Prop
  | labels {given given' : Tensor Int32} (h : given.at? place = given'.at? place) :
      AgreeAt place (.labels given) (.labels given')
  | distributions {given given' : Tensor S} (h : given.AgreeOn (·.eraseIdx 1 = place) given') :
      AgreeAt place (.distributions given) (.distributions given')
  | pixels {given given' : Tensor Int32} {weights weights' : Option (Tensor S)}
      (hlabel : given.at? place = given'.at? place)
      (hweight : weightAt? weights place = weightAt? weights' place) :
      AgreeAt place (.pixels given weights) (.pixels given' weights')

/-- Two supervisions of one kind hold the same against one lane. -/
inductive Supervision.AgreeAt {n d : Nat} (l : Fin n) : Supervision S n d → Supervision S n d → Prop
  | labels {classes classes' : Vector (Fin d) n} (h : classes.get l = classes'.get l) :
      AgreeAt l (.labels classes) (.labels classes')
  | distributions {t t' : Vector (Vector S d) n} (h : t.get l = t'.get l) :
      AgreeAt l (.distributions t) (.distributions t')
  | pixels {marks marks' : Vector (Option (Fin d × S)) n} (h : marks.get l = marks'.get l) :
      AgreeAt l (.pixels marks) (.pixels marks')

/-- The gradient of a lane depends on its probabilities, on what they are held against and on the
scale. -/
theorem Supervision.AgreeAt.get_gradient {n d : Nat} {l : Fin n} {a b : Supervision S n d}
    (h : Supervision.AgreeAt l a b) {p q : Vector (Vector S d) n} (hp : p.get l = q.get l)
    (scale : S) : (a.gradient scale p).get l = (b.gradient scale q).get l := by
  cases h with
  | labels h => simp only [Supervision.gradient, get_zipWith, hp, h]
  | distributions h => simp only [Supervision.gradient, get_zipWith, hp, h]
  | pixels h => simp only [Supervision.gradient, get_zipWith, hp, h]

variable {targets targets' : Targets S} {shape : Shape}

theorem Fits.split_eq {f f' : Fitted S shape} (h : Fits targets shape f)
    (h' : Fits targets' shape f') : f.split = f'.split := by
  cases h <;> cases h' <;> rfl

theorem read_congr {β : Type} {d : Nat} {read : Int32 → Option β} {given : Shape}
    {labels labels' : Vector Int32 (Shape.size given)} {readings readings' : Vector β (Shape.size given)}
    (hread : readLabels d read ⟨given, labels⟩ = .ok readings)
    (hread' : readLabels d read ⟨given, labels'⟩ = .ok readings') {l : Fin (Shape.size given)}
    (h : Tensor.at? ⟨given, labels⟩ (given.unravel l) =
      Tensor.at? ⟨given, labels'⟩ (given.unravel l)) : readings.get l = readings'.get l := by
  have hlabel : labels.get l = labels'.get l := by
    have hat := Tensor.at?_index ⟨given, labels⟩ l
    exact Option.some_inj.mp (hat.symm.trans (h.trans (Tensor.at?_index ⟨given, labels'⟩ l)))
  have hreading : some (readings.get l) = some (readings'.get l) :=
    (read_get hread l).symm.trans ((congrArg read hlabel).trans (read_get hread' l))
  exact Option.some_inj.mp hreading

theorem weightOf_congr {given : Shape} {weights weights' : Option (Vector S (Shape.size given))}
    {l : Fin (Shape.size given)}
    (h : weightAt? (weights.map (Tensor.mk given)) (given.unravel l) =
      weightAt? (weights'.map (Tensor.mk given)) (given.unravel l)) :
    weightOf weights l = weightOf weights' l := by
  have hweight (v : Option (Vector S (Shape.size given))) :
      weightAt? (v.map (Tensor.mk given)) (given.unravel l) = some (weightOf v l) := by
    cases v with
    | none => rfl
    | some v => exact Tensor.at?_index ⟨given, v⟩ l
  exact Option.some_inj.mp ((hweight weights).symm.trans (h.trans (hweight weights')))

theorem get_weighMarks_congr {n d : Nat} {marks marks' : Vector (Option (Fin d)) n}
    {weights weights' : Option (Vector S n)} {l : Fin n} (hmark : marks.get l = marks'.get l)
    (hweight : weightOf weights l = weightOf weights' l) :
    (weighMarks marks weights).get l = (weighMarks marks' weights').get l := by
  rw [get_weighMarks, get_weighMarks, hmark, hweight]

/-- Targets that are the same at the location of a lane hold the same against the lane. -/
theorem Targets.AgreeAt.supervision {place : List Nat} (hagree : targets.AgreeAt place targets')
    {s : Split (Shape.size shape)} {a b : Supervision S s.count s.classes}
    (ha : Fits targets shape ⟨s, a⟩) (hb : Fits targets' shape ⟨s, b⟩)
    {l : Fin s.count} {c : Fin s.classes}
    (hl : (shape.unravel (s.entry l c)).eraseIdx 1 = place) : Supervision.AgreeAt l a b := by
  cases hagree with
  | labels h =>
    cases ha with
    | labels _ hread => cases hb with
      | labels _ hread' =>
        -- without its class, the index of an entry is that of the label
        obtain rfl := (location_entry l c).symm.trans hl
        exact .labels (read_congr hread hread' h)
  | distributions h =>
    cases ha with
    | distributions => cases hb with
      | distributions =>
        exact .distributions ((Split.classAxis_locatedBy _ _ _).lane_congr h hl)
  | pixels hlabel hweight =>
    cases ha with
    | pixels _ hread => cases hb with
      | pixels _ hread' =>
        obtain rfl := (location_entry l c).symm.trans hl
        exact .pixels
          (get_weighMarks_congr (read_congr hread hread' hlabel) (weightOf_congr hweight))

/-! ## Both operations -/

section Operations

variable {D : Type} [Scalar D] [Precision S D] {scores scores' : Tensor S}

theorem lossBackward_agreeAt {place : List Nat} (hagree : targets.AgreeAt place targets')
    (hscores : scores.AgreeOn (·.eraseIdx 1 = place) scores')
    {e : Evaluation S scores.shape} {e' : Evaluation S scores'.shape}
    (he : targets.evaluate scores = .ok e) (he' : targets'.evaluate scores' = .ok e')
    (hweight : e.totalWeight = e'.totalWeight) {outGradient outGradient' : Tensor S} {g : S}
    (hg : onlyEntry outGradient = .ok g) (hg' : onlyEntry outGradient' = .ok g) :
    ∃ gradient gradient', (softmaxWithLoss targets).backward outGradient scores 1 = .ok gradient ∧
      (softmaxWithLoss targets').backward outGradient' scores' 1 = .ok gradient' ∧
        gradient.AgreeOn (·.eraseIdx 1 = place) gradient' := by
  obtain ⟨⟨s, a⟩, hf, rfl⟩ := evaluate_eq_ok_iff.mp he
  obtain ⟨⟨s', b⟩, hf', rfl⟩ := evaluate_eq_ok_iff.mp he'
  refine ⟨_, _, lossBackward_eq hf hg, lossBackward_eq hf' hg', ?_⟩
  obtain ⟨shape, x⟩ := scores
  obtain ⟨shape', x'⟩ := scores'
  obtain rfl : shape = shape' := hscores.1
  obtain rfl : s = s' := hf.split_eq hf'
  rw [← show narrow _ = narrow _ from hweight]
  refine Split.agreeOn_join fun l c hl => ?_
  refine (hagree.supervision hf hf' hl).get_gradient ?_ _
  simp only [Fitted.probabilities, get_softmaxLanes, hf.locatedBy.2.lane_congr hscores hl]

/-- **Distributions are independent of one another**, whatever the numbers compute. Scores that
agree on a row or at a location have the same probabilities and the same gradient by them there;
with the same target there and the same total weight, they also have the same gradient of the
loss. -/
theorem distributions_independent :
    (∀ (axis : Nat) (scores scores' : Tensor S) (outputs : List (Tensor S)) (place : List Nat),
      (softmax axis).forward scores = .ok outputs → scores.AgreeOn (·.take axis = place) scores' →
        (softmax axis).AgreeAt (softmax axis) scores scores' (·.take axis = place)) ∧
    ∀ (targets targets' : Targets S) (scores scores' : Tensor S) (e : Evaluation S scores.shape)
      (e' : Evaluation S scores'.shape) (place : List Nat),
      targets.evaluate scores = .ok e → targets'.evaluate scores' = .ok e' →
        scores.AgreeOn (·.eraseIdx 1 = place) scores' →
          (softmaxWithLoss targets).AgreeAt (softmaxWithLoss targets') scores scores'
            (·.eraseIdx 1 = place) ∧
          (targets.AgreeAt place targets' → e.totalWeight = e'.totalWeight →
            ∀ (outGradient outGradient' : Tensor S) (g : S), onlyEntry outGradient = .ok g →
              onlyEntry outGradient' = .ok g → ∃ gradient gradient',
                (softmaxWithLoss targets).backward outGradient scores 1 = .ok gradient ∧
                  (softmaxWithLoss targets').backward outGradient' scores' 1 = .ok gradient' ∧
                    gradient.AgreeOn (·.eraseIdx 1 = place) gradient') := by
  constructor
  · intro axis scores scores' outputs place hforward hscores
    obtain ⟨s, -, hs, hsoftmax⟩ := softmax_normalizes hforward
    exact hsoftmax.agreeAt hsoftmax hs hscores
  · intro targets targets' scores scores' e e' place he he' hscores
    refine ⟨?_, fun hagree hweight outGradient outGradient' g hg hg' =>
      lossBackward_agreeAt hagree hscores he he' hweight hg hg'⟩
    obtain ⟨f, hf, -⟩ := evaluate_eq_ok_iff.mp he
    obtain ⟨f', hf', -⟩ := evaluate_eq_ok_iff.mp he'
    obtain ⟨shape, x⟩ := scores
    obtain ⟨shape', x'⟩ := scores'
    obtain rfl : shape = shape' := hscores.1
    have hsoftmax' := hf'.softmaxOf
    rw [← hf.split_eq hf'] at hsoftmax'
    exact hf.softmaxOf.agreeAt hsoftmax' hf.locatedBy.2 hscores

/-- Two matrices with one first row, and two images with one first pixel. The other pixel is ignored
once, and once it has no weight. -/
theorem distributions_independent_first :
    letI := ExactScalar.rational
    let rows : Tensor ℚ := ⟨[2, 2], #v[1, 3, 2, 1]⟩
    let rows' : Tensor ℚ := ⟨[2, 2], #v[1, 3, 7, 7]⟩
    let images : Tensor ℚ := ⟨[1, 2, 1, 2], #v[1, 2, 3, 4]⟩
    let images' : Tensor ℚ := ⟨[1, 2, 1, 2], #v[1, 9, 3, 8]⟩
    let targets : Targets ℚ := .pixels ⟨[1, 1, 2], #v[0, -1]⟩ (some ⟨[1, 1, 2], #v[3, 5]⟩)
    let targets' : Targets ℚ := .pixels ⟨[1, 1, 2], #v[0, 1]⟩ (some ⟨[1, 1, 2], #v[3, 0]⟩)
    (softmax 1).AgreeAt (softmax 1) rows rows' (·.take 1 = [0]) ∧
    (softmaxWithLoss targets).AgreeAt (softmaxWithLoss targets') images images'
      (·.eraseIdx 1 = [0, 0, 0]) ∧
    ∃ gradient gradient',
      (softmaxWithLoss targets).backward (Tensor.scalar 2) images 1 = .ok gradient ∧
        (softmaxWithLoss targets').backward (Tensor.scalar 2) images' 1 = .ok gradient' ∧
          gradient.AgreeOn (·.eraseIdx 1 = [0, 0, 0]) gradient' := by
  let _ := ExactScalar.rational
  intro rows rows' images images' targets targets'
  constructor
  · have hforward : (softmax 1).forward rows = .ok [⟨[2, 2], #v[5/6, 1/6, 1/3, 2/3]⟩] := by
      decide +kernel
    exact distributions_independent.1 1 rows rows' _ [0] hforward
      (agreeOn_iff.mpr (by decide +kernel))
  · have hread : readLabels 2 (markOf? 2) ⟨[1, 1, 2], #v[0, -1]⟩ = .ok #v[some 0, none] :=
      readLabels_eq_ok_iff.mpr (by decide +kernel)
    have hread' : readLabels 2 (markOf? 2) ⟨[1, 1, 2], #v[0, 1]⟩ = .ok #v[some 0, some 1] :=
      readLabels_eq_ok_iff.mpr (by decide +kernel)
    have hfits : Fits targets images.shape _ :=
      @Fits.pixels ℚ _ 1 2 1 2 _ _ (some #v[3, 5]) (by decide) hread
    have hfits' : Fits targets' images'.shape _ :=
      @Fits.pixels ℚ _ 1 2 1 2 _ _ (some #v[3, 0]) (by decide) hread'
    have hapart := distributions_independent.2 targets targets' images images' _ _ [0, 0, 0]
      (evaluate_eq_ok_iff.mpr ⟨_, hfits, rfl⟩) (evaluate_eq_ok_iff.mpr ⟨_, hfits', rfl⟩)
      (agreeOn_iff.mpr (by decide +kernel))
    have hagree : targets.AgreeAt [0, 0, 0] targets' :=
      .pixels (by decide +kernel) (by decide +kernel)
    exact ⟨hapart.1, hapart.2 hagree (by decide +kernel) _ _ 2 rfl rfl⟩

end Operations

end CrossEntropy
