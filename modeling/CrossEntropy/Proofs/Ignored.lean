import CrossEntropy.Proofs.Location
import CrossEntropy.Proofs.Labels
import CrossEntropy.Proofs.LossReference

/-!
# Ignored pixels

A location whose label is the ignored one does not count: no weight and no score there, undefined
or not, has a part in the average loss or in its gradient. No law of arithmetic is assumed.

* `IsCounted`, `AgreeWhereCounted`: inputs that differ at ignored locations only;
* `expectWeights_bind_congr`, `weighMarks_congr`, `resolve_pixels_congr`: weights that differ there;
* `totals_pixels_congr`, `gradient_pixels_congr`, `pixelLoss_congr`: the three loops over locations;
* `Operation.LossAlike`, `softmaxWithLoss_lossAlike`, `spatialSoftmaxCrossEntropy_lossAlike`: two
  runs;
* `lossBackward_ignored`, `totals_of_ignored`: what ignored locations get;
* **`ignored_noninterference`**: the loss, its reference and its gradients do not tell them apart.
-/

namespace CrossEntropy

open Scalar Precision

/-- A location has a label other than the ignored one. -/
def IsCounted (labels : Tensor Int32) (location : List Nat) : Prop :=
  labels.at? location ≠ some ignoredLabel

instance (labels : Tensor Int32) : DecidablePred (IsCounted labels) :=
  fun _ => inferInstanceAs (Decidable (_ ≠ _))

theorem isCounted_iff {d : Nat} {labels : Tensor Int32}
    {marks : Vector (Option (Fin d)) labels.size}
    (hread : readLabels d (markOf? d) labels = .ok marks) (k : Fin labels.size) :
    IsCounted labels (labels.index k) ↔ marks.get k ≠ none := by
  have hmark := read_get hread k
  rw [IsCounted, labels.at?_index, Ne, Option.some_inj, ← markOf?_eq_some_none_iff (d := d), hmark,
    Option.some_inj]

/-- Weights and scores of two runs on the same labels that differ at ignored locations only. -/
structure AgreeWhereCounted {α : Type} (labels : Tensor Int32) (weights weights' : Option (Tensor α))
    (scores scores' : Tensor α) : Prop where
  weights : Option.Rel (Tensor.AgreeOn (IsCounted labels)) weights weights'
  scores : Tensor.AgreeOn (fun index => IsCounted labels (index.eraseIdx 1)) scores scores'

/-! ## Weights -/

section Weights

variable {S : Type} [Scalar S]

/-- What is made of weights may depend on them only where they agree. -/
theorem expectWeights_bind_congr {β : Type} {shape : Shape} {places : List Nat → Prop}
    {weights weights' : Option (Tensor S)}
    (h : Option.Rel (Tensor.AgreeOn places) weights weights')
    {f g : Option (Vector S (Shape.size shape)) → Except ShapeError β}
    (hfg : ∀ v v', (∀ l : Fin (Shape.size shape), places (shape.unravel l) →
      weightOf v l = weightOf v' l) → f v = g v') :
    expectWeights shape weights >>= f = expectWeights shape weights' >>= g := by
  cases h with
  | none => exact hfg none none fun _ _ => rfl
  | @some x y hxy =>
    obtain ⟨given, v⟩ := x
    obtain ⟨given', v'⟩ := y
    obtain rfl : given = given' := hxy.1
    by_cases hshape : given = shape
    · subst hshape
      have hok (v : Vector S (Shape.size given)) :
          expectWeights given (some ⟨given, v⟩) = .ok (some v) := expectWeights_eq_ok_iff.mpr rfl
      rw [hok, hok]
      exact hfg (some v) (some v') (agreeOn_iff.mp hxy)
    · -- weights of another shape are refused before any of them is looked at
      have herror (v : Vector S (Shape.size given)) :
          expectWeights shape (some ⟨given, v⟩) = .error (.mismatch "weights" shape given) := by
        refine bind_eq_error_iff.mpr (.inl ?_)
        exact expectShape_eq_error_iff.mpr ⟨hshape, rfl⟩
      rw [herror, herror]
      rfl

theorem weighMarks_congr {n d : Nat} {marks : Vector (Option (Fin d)) n}
    {weights weights' : Option (Vector S n)}
    (h : ∀ l, marks.get l ≠ none → weightOf weights l = weightOf weights' l) :
    weighMarks marks weights = weighMarks marks weights' := by
  apply ext_get
  intro l
  rw [get_weighMarks, get_weighMarks]
  cases hmark : marks.get l with
  | none => rfl
  | some c => rw [Option.map_some, Option.map_some, h l (by simp [hmark])]

theorem get_weighMarks_eq_none_iff {n d : Nat} {marks : Vector (Option (Fin d)) n}
    {weights : Option (Vector S n)} {l : Fin n} :
    (weighMarks marks weights).get l = none ↔ marks.get l = none := by
  rw [get_weighMarks, Option.map_eq_none_iff]

theorem resolve_pixels_congr {labels : Tensor Int32} {weights weights' : Option (Tensor S)}
    (h : Option.Rel (Tensor.AgreeOn (IsCounted labels)) weights weights') (shape : Shape) :
    (Targets.pixels labels weights).resolve shape =
      (Targets.pixels labels weights').resolve shape := by
  match shape with
  | [n, d, height, width] =>
    rw [resolve_pixels, resolve_pixels]
    refine bind_congr_ok fun entries hentries => ?_
    obtain rfl := expectShape_eq_ok_iff.mp hentries
    refine expectWeights_bind_congr h fun v v' hv => bind_congr_ok fun marks hread => ?_
    let fitted (weighed : Vector (Option (Fin d × S)) (Shape.size [n, height, width])) :
        Fitted S [n, d, height, width] :=
      ⟨Split.classAxis n d [height, width], .pixels weighed⟩
    refine congrArg (fun weighed => if d = 0 then _ else Except.ok (fitted weighed)) ?_
    exact weighMarks_congr fun l hl => hv l ((isCounted_iff hread l).mpr hl)
  | [] | [_] | [_, _] | [_, _, _] | _ :: _ :: _ :: _ :: _ :: _ => rfl

end Weights

/-! ## Loops over locations -/

section Loops

variable {S D : Type} [Scalar S] [Scalar D] [Precision S D] {n d : Nat}
  {marks : Vector (Option (Fin d × S)) n} {p q : Vector (Vector S d) n}

theorem totals_pixels_congr (h : ∀ l, marks.get l ≠ none → p.get l = q.get l) :
    (Supervision.totals p (.pixels marks) : Totals D) = Supervision.totals q (.pixels marks) := by
  simp only [Supervision.totals, foldl_eq, get_zipWith, Totals.mk.injEq, and_true]
  refine foldl_congr (fun loss l => ?_) 0
  cases hmark : marks.get l with
  | none => rfl
  | some mark => rw [h l (by simp [hmark])]

theorem gradient_pixels_congr (h : ∀ l, marks.get l ≠ none → p.get l = q.get l) (scale : S) :
    Supervision.gradient scale p (.pixels marks) = Supervision.gradient scale q (.pixels marks) := by
  apply ext_get
  intro l
  simp only [Supervision.gradient, get_zipWith]
  cases hmark : marks.get l with
  | none => rfl
  | some mark => rw [h l (by simp [hmark])]

theorem get_gradient_of_ignored {l : Fin n} (hmark : marks.get l = none) (scale : S) (c : Fin d) :
    ((Supervision.gradient scale p (.pixels marks)).get l).get c = 0 := by
  rw [Supervision.gradient, get_zipWith, hmark, markGradient]
  exact Vector.getElem_replicate c.isLt

theorem totals_pixels_of_ignored (h : ∀ l, marks.get l = none) :
    (Supervision.totals p (.pixels marks) : Totals D) = ⟨0, 0⟩ := by
  simp only [Supervision.totals, foldl_eq, get_zipWith, h, foldl_fixed]

theorem pixelLoss_congr {A : Type} [Scalar A] {h w : Nat} {x x' : Fin n → Fin d → Fin h → Fin w → A}
    {mark : Fin n → Fin h → Fin w → Option (Fin d)} {weight weight' : Fin n → Fin h → Fin w → A}
    (hx : ∀ i y v, mark i y v ≠ none → ∀ c, x i c y v = x' i c y v)
    (hweight : ∀ i y v, mark i y v ≠ none → weight i y v = weight' i y v) :
    Reference.pixelLoss x mark weight = Reference.pixelLoss x' mark weight' := by
  unfold Reference.pixelLoss
  refine congrArg₂ (fun loss mass => Reference.foldPixels loss 0 / Reference.foldPixels mass 0)
    ?_ ?_
  · funext loss i y v
    cases hmark : mark i y v with
    | none => rfl
    | some c =>
      have hcounted : mark i y v ≠ none := by simp [hmark]
      simp only [hx i y v hcounted, hweight i y v hcounted]
  · funext mass i y v
    cases hmark : mark i y v with
    | none => rfl
    | some c => rw [hweight i y v (by simp [hmark])]

theorem pixelLoss_of_ignored {A : Type} [Scalar A] {h w : Nat}
    (x : Fin n → Fin d → Fin h → Fin w → A) (weight : Fin n → Fin h → Fin w → A) :
    Reference.pixelLoss x (fun _ _ _ => none) weight = 0 / 0 := by
  simp only [Reference.pixelLoss, Reference.foldPixels, foldl_fixed]

end Loops

/-! ## Two runs -/

section Runs

variable {S D : Type} [Scalar S] [Scalar D] [Precision S D]

/-- Two operations give the same average loss for their scores and the same gradients of it, or
refuse the scores for the same reason. -/
structure Operation.LossAlike (operation operation' : Operation S) (scores scores' : Tensor S) :
    Prop where
  forward : (·[1]?) <$> operation.forward scores = (·[1]?) <$> operation'.forward scores'
  backward (outGradient : Tensor S) :
    operation.backward outGradient scores 1 = operation'.backward outGradient scores' 1

variable {n d h w : Nat} {labels : Vector Int32 (Shape.size [n, h, w])}
  {marks : Vector (Option (Fin d)) (Shape.size [n, h, w])}

theorem isCounted_entry (hread : readLabels d (markOf? d) ⟨[n, h, w], labels⟩ = .ok marks)
    {l : Fin (Split.classAxis n d [h, w]).count} (hl : marks.get l ≠ none) (c : Fin d) :
    IsCounted ⟨[n, h, w], labels⟩
      ((Shape.unravel [n, d, h, w] ((Split.classAxis n d [h, w]).entry l c)).eraseIdx 1) := by
  have hlocation := congrArg (IsCounted ⟨[n, h, w], labels⟩) (location_entry l c)
  exact hlocation.mpr ((isCounted_iff hread l).mpr hl)

/-- What is computed for counted locations is the same if the scores differ at ignored ones. -/
theorem Fits.pixels_alike {labels : Tensor Int32} {weights : Option (Tensor S)} {shape : Shape}
    {f : Fitted S shape} (hf : Fits (.pixels labels weights) shape f)
    {x x' : Vector S (Shape.size shape)} (hx : Tensor.AgreeOn
      (fun index => IsCounted labels (index.eraseIdx 1)) ⟨shape, x⟩ ⟨shape, x'⟩) :
    let p := softmaxLanes (f.split.lanes x)
    let q := softmaxLanes (f.split.lanes x')
    (f.supervision.totals p : Totals D) = f.supervision.totals q ∧
      ∀ scale, f.supervision.gradient scale p = f.supervision.gradient scale q := by
  cases hf with
  | @pixels n d h w entries marks weights hd hread =>
    have hlanes (l : Fin (Split.classAxis n d [h, w]).count)
        (hl : (weighMarks marks weights).get l ≠ none) :
        (softmaxLanes ((Split.classAxis n d [h, w]).lanes x)).get l =
          (softmaxLanes ((Split.classAxis n d [h, w]).lanes x')).get l := by
      have hmark : marks.get l ≠ none := fun hmark => hl (get_weighMarks_eq_none_iff.mpr hmark)
      rw [get_softmaxLanes, get_softmaxLanes, Split.lanes_congr hx (isCounted_entry hread hmark)]
    exact ⟨totals_pixels_congr hlanes, gradient_pixels_congr hlanes⟩

theorem softmaxWithLoss_lossAlike {labels : Tensor Int32} {weights weights' : Option (Tensor S)}
    {scores scores' : Tensor S} (hagree : AgreeWhereCounted labels weights weights' scores scores') :
    (softmaxWithLoss (.pixels labels weights)).LossAlike
      (softmaxWithLoss (.pixels labels weights')) scores scores' := by
  obtain ⟨shape, x⟩ := scores
  obtain ⟨shape', x'⟩ := scores'
  obtain rfl : shape = shape' := hagree.scores.1
  have hresolve := resolve_pixels_congr hagree.weights shape
  constructor
  · rw [forward_eq_bind, forward_eq_bind, map_bind, map_bind, ← hresolve]
    -- both runs fit alike, so they are accepted or refused together
    refine bind_congr_ok fun f hf => ?_
    obtain ⟨htotals, -⟩ := (resolve_eq_ok_iff.mp hf).pixels_alike (D := D) hagree.scores
    exact congrArg (fun t : Totals D => Except.ok (some (Tensor.scalar (narrow (t.loss / t.weight)))))
      htotals
  · intro outGradient
    show lossBackward _ outGradient _ = lossBackward _ outGradient _
    rw [lossBackward_eq_bind, lossBackward_eq_bind, ← hresolve]
    refine congrArg (_ >>= ·) (funext fun g => bind_congr_ok fun f hf => ?_)
    obtain ⟨htotals, hgradient⟩ := (resolve_eq_ok_iff.mp hf).pixels_alike (D := D) hagree.scores
    simp only [Fitted.totals, Fitted.probabilities, htotals, hgradient]

theorem spatialSoftmaxCrossEntropy_lossAlike {labels : Tensor Int32}
    {weights weights' : Option (Tensor S)} {scores scores' : Tensor S}
    (hagree : AgreeWhereCounted labels weights weights' scores scores') :
    Prod.snd <$> Reference.spatialSoftmaxCrossEntropy scores labels weights =
      Prod.snd <$> Reference.spatialSoftmaxCrossEntropy scores' labels weights' := by
  obtain ⟨shape, x⟩ := scores
  obtain ⟨shape', x'⟩ := scores'
  obtain rfl : shape = shape' := hagree.scores.1
  match shape with
  | [n, d, h, w] =>
    rw [spatialSoftmaxCrossEntropy_eq_bind, spatialSoftmaxCrossEntropy_eq_bind, map_bind, map_bind]
    refine bind_congr_ok fun entries hentries => ?_
    obtain rfl := expectShape_eq_ok_iff.mp hentries
    rw [map_bind, map_bind]
    refine expectWeights_bind_congr hagree.weights fun v v' hv => ?_
    by_cases hd : d = 0
    · rw [if_pos hd, if_pos hd]
    · rw [if_neg hd, if_neg hd, map_bind, map_bind]
      refine bind_congr_ok fun marks hread => congrArg Except.ok ?_
      apply pixelLoss_congr
      · intro i y u hmark c
        have hentry := agreeOn_iff.mp hagree.scores _
          (isCounted_entry (l := pixelLane i y u) hread hmark c)
        rwa [get_entry_pixelLane, get_entry_pixelLane] at hentry
      · intro i y u hmark
        exact hv (pixelLane (d := d) i y u) ((isCounted_iff hread _).mpr hmark)
  | [] | [_] | [_, _] | [_, _, _] | _ :: _ :: _ :: _ :: _ :: _ => rfl

end Runs

/-! ## What ignored locations get -/

section Slots

variable {S D : Type} [Scalar S] [Scalar D] [Precision S D] {labels : Tensor Int32}

theorem lossBackward_ignored {weights : Option (Tensor S)} {scores : Tensor S}
    {f : Fitted S scores.shape} (hf : Fits (.pixels labels weights) scores.shape f)
    {outGradient : Tensor S} {g : S} (hg : onlyEntry outGradient = .ok g) :
    ∃ gradient, (softmaxWithLoss (.pixels labels weights)).backward outGradient scores 1 =
      .ok gradient ∧ gradient.AgreeOn (fun index => ¬ IsCounted labels (index.eraseIdx 1))
        ⟨scores.shape, Vector.replicate scores.size 0⟩ := by
  refine ⟨_, lossBackward_eq hf hg, agreeOn_iff.mpr fun k hk => ?_⟩
  obtain ⟨shape, x⟩ := scores
  cases hf with
  | @pixels n d h w entries marks weights hd hread =>
    let s := Split.classAxis n d [h, w]
    have hmark : marks.get (s.laneOf k) = none := by
      rw [eraseIdx_index] at hk
      exact not_not.mp fun hmark => hk ((isCounted_iff hread _).mpr hmark)
    refine (s.get_join _ k).trans (.trans ?_ (Vector.getElem_replicate k.isLt).symm)
    exact get_gradient_of_ignored (get_weighMarks_eq_none_iff.mpr hmark) _ _

theorem totals_of_ignored {weights : Option (Tensor S)} {scores : Tensor S}
    {f : Fitted S scores.shape} (hf : Fits (.pixels labels weights) scores.shape f)
    (hall : ∀ location, labels.shape.Contains location → ¬ IsCounted labels location) :
    (f.totals : Totals D) = ⟨0, 0⟩ := by
  obtain ⟨shape, x⟩ := scores
  cases hf with
  | @pixels n d h w entries marks weights hd hread =>
    refine totals_pixels_of_ignored fun l => get_weighMarks_eq_none_iff.mpr ?_
    have hl := Shape.forall_contains_iff.mp hall l
    exact not_not.mp fun hmark => hl ((isCounted_iff hread l).mpr hmark)

theorem spatialSoftmaxCrossEntropy_of_ignored {weights : Option (Tensor S)}
    {scores probabilities : Tensor S} {loss : S}
    (hok : Reference.spatialSoftmaxCrossEntropy scores labels weights = .ok (probabilities, loss))
    (hall : ∀ location, labels.shape.Contains location → ¬ IsCounted labels location) :
    loss = 0 / 0 := by
  obtain ⟨f, hf⟩ := fits_of_spatialSoftmaxCrossEntropy hok
  obtain ⟨shape, x⟩ := scores
  cases hf with
  | @pixels n d h w entries marks weights hd hread =>
    have hmarks : Reference.byPixel marks = fun _ _ _ => none := by
      funext i y u
      have hl := Shape.forall_contains_iff.mp hall (pixelLane (d := d) i y u)
      exact not_not.mp fun hmark => hl ((isCounted_iff hread _).mpr hmark)
    rw [spatialSoftmaxCrossEntropy_weighted hd hread, hmarks, pixelLoss_of_ignored] at hok
    cases hok
    rfl

end Slots

/-! ## Noninterference -/

section Noninterference

variable {S D A : Type} [Scalar S] [Scalar D] [Precision S D] [Scalar A]

/-- **Ignored pixels do not count**, whatever the numbers compute: weights and scores at ignored
locations have no part in the average loss, in its reference and in the gradient of the loss, which
is zero at these locations. Where nothing else is left, the loss is the undefined `0 / 0`. -/
theorem ignored_noninterference (labels : Tensor Int32) :
    (∀ (weights weights' : Option (Tensor S)) (scores scores' : Tensor S),
      AgreeWhereCounted labels weights weights' scores scores' →
        (softmaxWithLoss (.pixels labels weights)).LossAlike
          (softmaxWithLoss (.pixels labels weights')) scores scores') ∧
    (∀ (weights weights' : Option (Tensor A)) (scores scores' : Tensor A),
      AgreeWhereCounted labels weights weights' scores scores' →
        Prod.snd <$> Reference.spatialSoftmaxCrossEntropy scores labels weights =
          Prod.snd <$> Reference.spatialSoftmaxCrossEntropy scores' labels weights') ∧
    (∀ (weights : Option (Tensor S)) (scores : Tensor S) (outputs : List (Tensor S)),
      (softmaxWithLoss (.pixels labels weights)).forward scores = .ok outputs →
        ∀ (outGradient : Tensor S) (g : S), onlyEntry outGradient = .ok g →
          ∃ gradient, (softmaxWithLoss (.pixels labels weights)).backward outGradient scores 1 =
            .ok gradient ∧ gradient.AgreeOn (fun index => ¬ IsCounted labels (index.eraseIdx 1))
              ⟨scores.shape, Vector.replicate scores.size 0⟩) ∧
    ((∀ location, labels.shape.Contains location → ¬ IsCounted labels location) →
      (∀ (weights : Option (Tensor S)) (scores : Tensor S) (outputs : List (Tensor S)),
        (softmaxWithLoss (.pixels labels weights)).forward scores = .ok outputs →
          outputs[1]? = some (Tensor.scalar (narrow (0 / 0 : D)))) ∧
      ∀ (weights : Option (Tensor A)) (scores probabilities : Tensor A) (loss : A),
        Reference.spatialSoftmaxCrossEntropy scores labels weights = .ok (probabilities, loss) →
          loss = 0 / 0) := by
  refine ⟨?_, ?_, ?_, fun hall => ⟨?_, ?_⟩⟩
  · intro weights weights' scores scores' hagree
    exact softmaxWithLoss_lossAlike hagree
  · intro weights weights' scores scores' hagree
    exact spatialSoftmaxCrossEntropy_lossAlike hagree
  · intro weights scores outputs hforward outGradient g hg
    obtain ⟨f, hf, -⟩ := forward_eq_ok_iff.mp hforward
    exact lossBackward_ignored hf hg
  · intro weights scores outputs hforward
    obtain ⟨f, hf, rfl⟩ := forward_eq_ok_iff.mp hforward
    show some (Tensor.scalar (narrow (f.totals.loss / f.totals.weight))) = _
    rw [totals_of_ignored hf hall]
  · intro weights scores probabilities loss h
    exact spatialSoftmaxCrossEntropy_of_ignored h hall

/-- Two pixels, one of them ignored. Its weight and its scores are undefined in one run. -/
theorem ignored_noninterference_undefined :
    let labels : Tensor Int32 := ⟨[1, 1, 2], #v[0, -1]⟩
    let defined : Targets Float32 := .pixels labels (some ⟨[1, 1, 2], #v[3, 5]⟩)
    let undefined : Targets Float32 := .pixels labels (some ⟨[1, 1, 2], #v[3, 0 / 0]⟩)
    let scores : Tensor Float32 := ⟨[1, 2, 1, 2], #v[1, 2, 3, 4]⟩
    let undefinedScores : Tensor Float32 := ⟨[1, 2, 1, 2], #v[1, 0 / 0, 3, 0 / 0]⟩
    (softmaxWithLoss defined).LossAlike (softmaxWithLoss undefined) scores undefinedScores ∧
    Prod.snd <$> Reference.spatialSoftmaxCrossEntropy
        (⟨[1, 2, 1, 2], #v[1, 2, 3, 4]⟩ : Tensor Float) labels none =
      Prod.snd <$> Reference.spatialSoftmaxCrossEntropy
        (⟨[1, 2, 1, 2], #v[1, 0 / 0, 3, 0 / 0]⟩ : Tensor Float) labels none ∧
    (∃ gradient, (softmaxWithLoss undefined).backward (Tensor.scalar 1) undefinedScores 1 =
      .ok gradient ∧ gradient.AgreeOn (fun index => ¬ IsCounted labels (index.eraseIdx 1))
        ⟨[1, 2, 1, 2], Vector.replicate 4 0⟩) ∧
    ∃ outputs, (softmaxWithLoss (.pixels ⟨[1, 1, 2], #v[-1, -1]⟩ none)).forward scores =
      .ok outputs ∧ outputs[1]? = some (Tensor.scalar (narrow (0 / 0 : Float))) := by
  intro labels defined undefined scores undefinedScores
  have hscores {α : Type} (a b c e b' e' : α) :
      Tensor.AgreeOn (fun index => IsCounted labels (index.eraseIdx 1))
        ⟨[1, 2, 1, 2], #v[a, b, c, e]⟩ ⟨[1, 2, 1, 2], #v[a, b', c, e']⟩ := by
    refine agreeOn_iff.mpr fun (k : Fin 4) hk => ?_
    match k with
    | 0 | 2 => rfl
    | 1 | 3 => exact absurd hk (by decide +kernel)
  have hweights {α : Type} (a b b' : α) : Tensor.AgreeOn (IsCounted labels)
      ⟨[1, 1, 2], #v[a, b]⟩ ⟨[1, 1, 2], #v[a, b']⟩ := by
    refine agreeOn_iff.mpr fun (k : Fin 2) hk => ?_
    match k with
    | 0 => rfl
    | 1 => exact absurd hk (by decide +kernel)
  refine ⟨?_, ?_, ?_, ?_⟩
  · exact (ignored_noninterference (A := Float) labels).1 _ _ _ _ ⟨.some (hweights ..), hscores ..⟩
  · exact (ignored_noninterference (S := Float32) labels).2.1 _ _ _ _ ⟨.none, hscores ..⟩
  · have hread : readLabels 2 (markOf? 2) labels = .ok #v[some 0, none] :=
      readLabels_eq_ok_iff.mpr (by decide +kernel)
    have hfits : Fits undefined undefinedScores.shape _ :=
      @Fits.pixels Float32 _ 1 2 1 2 _ _ (some #v[3, 0 / 0]) (by decide) hread
    have hforward : (softmaxWithLoss undefined).forward undefinedScores = .ok _ :=
      forward_eq_ok_iff.mpr ⟨_, hfits, rfl⟩
    exact (ignored_noninterference (A := Float) labels).2.2.1 _ _ _ hforward _ 1 rfl
  · have hread : readLabels 2 (markOf? 2) ⟨[1, 1, 2], #v[-1, -1]⟩ = .ok #v[none, none] :=
      readLabels_eq_ok_iff.mpr (by decide +kernel)
    have hfits : Fits (.pixels ⟨[1, 1, 2], #v[-1, -1]⟩ none) scores.shape _ :=
      @Fits.pixels Float32 _ 1 2 1 2 _ _ none (by decide) hread
    have hforward : (softmaxWithLoss _).forward scores = .ok _ :=
      forward_eq_ok_iff.mpr ⟨_, hfits, rfl⟩
    have hall : ∀ location, Shape.Contains [1, 1, 2] location →
        ¬ IsCounted ⟨[1, 1, 2], #v[-1, -1]⟩ location :=
      Shape.forall_contains_iff.mpr (by decide +kernel)
    exact ⟨_, hforward, ((ignored_noninterference (A := Float) _).2.2.2 hall).1 _ _ _ hforward⟩

end Noninterference

end CrossEntropy
