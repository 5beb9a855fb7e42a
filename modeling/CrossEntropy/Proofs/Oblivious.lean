import CrossEntropy.Proofs.Acceptance
import CrossEntropy.Proofs.Places

/-!
# Probabilities do not see the targets

The first output of the loss operation and its backward pass are those of softmax alone, whatever
the targets and whatever the numbers compute: on a matrix those of softmax from axis 1 on, and on
images those of the matrix whose rows are the pixels.

* `pixelRows`, `byClass_pixelRows`: the class vectors of all pixels, as a matrix;
* `pixelRows_softmax`, `pixelRows_softmaxBackward`: both passes commute with it;
* `Operation.SameFirst`, `Operation.Pixelwise`: agreement with another operation, and with softmax
  of the pixels;
* **`probabilities_oblivious`**: all targets that are accepted.
-/

namespace CrossEntropy

open Scalar Precision

/-! ## Pixels as rows -/

section Rows

variable {α : Type} {n d h w : Nat}

/-- The row-major number of a pixel. -/
def pixelNumber (i : Fin n) (y : Fin h) (v : Fin w) : Fin (n * h * w) :=
  ⟨(i * h + y) * w + v, Reference.row_lt (Reference.row_lt i.isLt y.isLt) v.isLt⟩

theorem count_pixels (n d h w : Nat) :
    (Split.classAxis n d [h, w]).count = (Split.classAxis (n * h * w) d []).count := by
  simp [Split.classAxis, Split.count, Nat.mul_assoc]

/-- The class vectors of all pixels, in row-major order, as the rows of a matrix. -/
def pixelRows (x : Vector α (Shape.size [n, d, h, w])) : Vector α (Shape.size [n * h * w, d]) :=
  (Split.classAxis (n * h * w) d []).join
    (((Split.classAxis n d [h, w]).lanes x).cast (count_pixels n d h w))

theorem byClass_pixelRows (x : Vector α (Shape.size [n, d, h, w])) (i : Fin n) (y : Fin h)
    (v : Fin w) (c : Fin d) :
    Reference.byClass (pixelRows x) (pixelNumber i y v) c = Reference.byChannel x i c y v := by
  refine (byClass_join _ (pixelNumber i y v) c).trans ?_
  -- the row of a pixel and its lane have the same number
  exact ((Split.classAxis n d [h, w]).get_lanes x (pixelLane i y v) c).trans
    (get_entry_pixelLane x i c y v)

variable {S : Type} [Scalar S]

theorem softmaxLanes_cast {m k : Nat} (hmk : m = k) (b : Vector (Vector S d) m) :
    softmaxLanes (b.cast hmk) = (softmaxLanes b).cast hmk := by
  subst hmk
  rfl

theorem softmaxBackwardLanes_cast {m k : Nat} (hmk : m = k) (b g : Vector (Vector S d) m) :
    softmaxBackwardLanes (softmaxLanes (b.cast hmk)) (g.cast hmk) =
      (softmaxBackwardLanes (softmaxLanes b) g).cast hmk := by
  subst hmk
  rfl

theorem pixelRows_softmax (x : Vector S (Shape.size [n, d, h, w])) :
    pixelRows ((Split.classAxis n d [h, w]).softmax x) =
      (Split.classAxis (n * h * w) d []).softmax (pixelRows x) := by
  simp only [pixelRows, Split.softmax, Split.lanes_join]
  exact congrArg _ (softmaxLanes_cast (count_pixels n d h w) _).symm

theorem pixelRows_softmaxBackward (x g : Vector S (Shape.size [n, d, h, w])) :
    pixelRows ((Split.classAxis n d [h, w]).softmaxBackward x g) =
      (Split.classAxis (n * h * w) d []).softmaxBackward (pixelRows x) (pixelRows g) := by
  simp only [pixelRows, Split.softmaxBackward, Split.lanes_join]
  exact congrArg _ (softmaxBackwardLanes_cast (count_pixels n d h w) _ _).symm

end Rows

/-! ## First outputs -/

section Operations

variable {S : Type} [Scalar S]

/-- Two operations have the same first output, and the same backward pass from it, whatever the
out-gradient: the same gradient or the same error. -/
structure Operation.SameFirst (operation operation' : Operation S) (scores : Tensor S) : Prop where
  forward : ∃ p rest rest', operation.forward scores = .ok (p :: rest) ∧
    operation'.forward scores = .ok (p :: rest')
  backward (outGradient : Tensor S) :
    operation.backward outGradient scores 0 = operation'.backward outGradient scores 0

/-- On images, the first output of an operation and its backward pass are at each pixel those of
softmax on the matrix of the pixels. -/
structure Operation.Pixelwise (operation : Operation S) {n d h w : Nat}
    (x : Vector S (Shape.size [n, d, h, w])) : Prop where
  forward : ∃ p rest q, operation.forward ⟨[n, d, h, w], x⟩ = .ok (⟨[n, d, h, w], p⟩ :: rest) ∧
    (softmax 1).forward ⟨[n * h * w, d], pixelRows x⟩ = .ok [⟨[n * h * w, d], q⟩] ∧
    ∀ i c y v, Reference.byChannel p i c y v = Reference.byClass q (pixelNumber i y v) c
  backward (g : Vector S (Shape.size [n, d, h, w])) : ∃ r q,
    operation.backward ⟨[n, d, h, w], g⟩ ⟨[n, d, h, w], x⟩ 0 = .ok ⟨[n, d, h, w], r⟩ ∧
    (softmax 1).backward ⟨[n * h * w, d], pixelRows g⟩ ⟨[n * h * w, d], pixelRows x⟩ 0 =
      .ok ⟨[n * h * w, d], q⟩ ∧
    ∀ i c y v, Reference.byChannel r i c y v = Reference.byClass q (pixelNumber i y v) c

/-- Operations that compute the softmax of the same lanes have the same first output. -/
theorem Operation.SoftmaxOf.sameFirst {operation operation' : Operation S} {shape : Shape}
    {s : Split (Shape.size shape)} (h : operation.SoftmaxOf s) (h' : operation'.SoftmaxOf s)
    {x : Vector S (Shape.size shape)}
    (hmismatch : ∀ outGradient : Tensor S, outGradient.shape ≠ shape →
      operation.backward outGradient ⟨shape, x⟩ 0 = operation'.backward outGradient ⟨shape, x⟩ 0) :
    operation.SameFirst operation' ⟨shape, x⟩ := by
  constructor
  · obtain ⟨rest, hforward⟩ := h.forward x
    obtain ⟨rest', hforward'⟩ := h'.forward x
    exact ⟨_, rest, rest', hforward, hforward'⟩
  · intro outGradient
    by_cases hshape : outGradient.shape = shape
    · obtain ⟨_, g⟩ := outGradient
      subst hshape
      rw [h.backward, h'.backward]
    · exact hmismatch outGradient hshape

section Softmax

variable {n d : Nat}

theorem flattened_matrix (n d : Nat) : Split.flattened [n, d] 1 = Split.classAxis n d [] := by
  simp [Split.flattened, Split.classAxis]

theorem softmax_forward_matrix (hd : d ≠ 0) (x : Vector S (Shape.size [n, d])) :
    (softmax 1).forward ⟨[n, d], x⟩ = .ok [⟨[n, d], (Split.classAxis n d []).softmax x⟩] := by
  rw [← flattened_matrix]
  exact softmax_forward_eq_ok_iff.mpr ⟨by simp, by simpa using hd, rfl⟩

theorem softmax_softmaxOf_rows (hd : d ≠ 0) :
    (softmax 1 : Operation S).SoftmaxOf (Split.classAxis n d []) := by
  rw [← flattened_matrix]
  exact softmax_softmaxOf (by simp) (by simpa using hd)

theorem softmax_backward_mismatch {axis : Nat} {outGradient scores : Tensor S}
    (h : outGradient.shape ≠ scores.shape) :
    (softmax axis).backward outGradient scores 0 =
      .error (.mismatch "out_gradient" scores.shape outGradient.shape) :=
  bind_eq_error_iff.mpr (.inl (expectShape_eq_error_iff.mpr ⟨h, rfl⟩))

end Softmax

variable {D : Type} [Scalar D] [Precision S D] {targets targets' : Targets S}

theorem softmaxWithLoss_backward_mismatch {outGradient scores : Tensor S}
    (h : outGradient.shape ≠ scores.shape) :
    (softmaxWithLoss targets).backward outGradient scores 0 =
      .error (.mismatch "out_gradient" scores.shape outGradient.shape) :=
  (backward_eq_error_iff targets scores).mpr (.probabilities h)

theorem Fits.split_unique {shape : Shape} {f f' : Fitted S shape} (h : Fits targets shape f)
    (h' : Fits targets' shape f') : f.split = f'.split := by
  obtain ⟨n, d, rest, -, rfl⟩ := h.exists_shape
  obtain ⟨a, rfl⟩ := h.eq_classAxis
  obtain ⟨a', rfl⟩ := h'.eq_classAxis
  rfl

/-- Targets that are accepted with the same scores make no difference to the probabilities. -/
theorem Fits.sameFirst {shape : Shape} {f f' : Fitted S shape} (h : Fits targets shape f)
    (h' : Fits targets' shape f') (x : Vector S (Shape.size shape)) :
    (softmaxWithLoss targets).SameFirst (softmaxWithLoss targets') ⟨shape, x⟩ := by
  have hsplit := h'.softmaxOf
  rw [← h.split_unique h'] at hsplit
  refine h.softmaxOf.sameFirst hsplit fun outGradient hshape => ?_
  rw [softmaxWithLoss_backward_mismatch hshape, softmaxWithLoss_backward_mismatch hshape]

theorem Fits.sameFirst_softmax {n d : Nat} {f : Fitted S [n, d]} (h : Fits targets [n, d] f)
    (x : Vector S (Shape.size [n, d])) :
    (softmaxWithLoss targets).SameFirst (softmax 1) ⟨[n, d], x⟩ := by
  obtain ⟨_, _, _, hd, hshape⟩ := h.exists_shape
  cases hshape
  obtain ⟨a, rfl⟩ := h.eq_classAxis
  refine h.softmaxOf.sameFirst (softmax_softmaxOf_rows hd) fun outGradient hmismatch => ?_
  rw [softmaxWithLoss_backward_mismatch hmismatch, softmax_backward_mismatch hmismatch]

theorem Fits.pixelwise {n d h w : Nat} {f : Fitted S [n, d, h, w]}
    (hf : Fits targets [n, d, h, w] f) (x : Vector S (Shape.size [n, d, h, w])) :
    (softmaxWithLoss targets).Pixelwise x := by
  obtain ⟨_, _, _, hd, hshape⟩ := hf.exists_shape
  cases hshape
  obtain ⟨a, rfl⟩ := hf.eq_classAxis
  constructor
  · obtain ⟨rest, hforward⟩ := hf.softmaxOf.forward x
    refine ⟨_, rest, _, hforward, softmax_forward_matrix hd (pixelRows x), fun i c y v => ?_⟩
    rw [← pixelRows_softmax, byClass_pixelRows]
  · intro g
    have hrows := (softmax_softmaxOf_rows hd).backward (pixelRows x) (pixelRows g)
    refine ⟨_, _, hf.softmaxOf.backward x g, hrows, fun i c y v => ?_⟩
    rw [← pixelRows_softmaxBackward, byClass_pixelRows]

/-- **Probabilities do not see the targets.** Where the loss operation accepts a matrix, its first
output and the backward pass from it are those of softmax from axis 1 on; other targets for the same
scores make no difference to them; and on images they are at each pixel those of softmax on the
matrix of the pixels. -/
theorem probabilities_oblivious {scores : Tensor S} {outputs : List (Tensor S)}
    (haccepted : (softmaxWithLoss targets).forward scores = .ok outputs) :
    (scores.shape.length = 2 → (softmaxWithLoss targets).SameFirst (softmax 1) scores) ∧
    (∀ (targets' : Targets S) (outputs' : List (Tensor S)),
      (softmaxWithLoss targets').forward scores = .ok outputs' →
        (softmaxWithLoss targets).SameFirst (softmaxWithLoss targets') scores) ∧
    ∀ (n d h w : Nat) (x : Vector S (Shape.size [n, d, h, w])), scores = ⟨[n, d, h, w], x⟩ →
      (softmaxWithLoss targets).Pixelwise x := by
  obtain ⟨f, hf, -⟩ := forward_eq_ok_iff.mp haccepted
  obtain ⟨shape, x⟩ := scores
  refine ⟨fun hrank => ?_, fun targets' outputs' haccepted' => ?_, ?_⟩
  · obtain ⟨n, d, rfl⟩ := List.length_eq_two.mp hrank
    exact hf.sameFirst_softmax x
  · obtain ⟨f', hf', -⟩ := forward_eq_ok_iff.mp haccepted'
    exact hf.sameFirst hf' x
  · rintro n d h w x' ⟨⟩
    exact hf.pixelwise _

end Operations

/-- Single precision: a row against its label, and two pixels, one of them ignored, against other
labels. -/
theorem probabilities_oblivious_single :
    let row : Tensor Float32 := ⟨[1, 2], #v[1, 2]⟩
    let x : Vector Float32 (Shape.size [1, 2, 1, 2]) := #v[1, 2, 3, 4]
    let weights : Tensor Float32 := ⟨[1, 1, 2], #v[3, 5]⟩
    let weighted : Targets Float32 := .pixels ⟨[1, 1, 2], #v[0, -1]⟩ (some weights)
    let plain : Targets Float32 := .pixels ⟨[1, 1, 2], #v[1, 1]⟩ none
    (softmaxWithLoss (.labels ⟨[1], #v[1]⟩)).SameFirst (softmax 1) row ∧
      (softmaxWithLoss weighted).SameFirst (softmaxWithLoss plain) ⟨[1, 2, 1, 2], x⟩ ∧
      (softmaxWithLoss weighted).Pixelwise x := by
  intro row x weights weighted plain
  have hrow : (Targets.labels ⟨[1], #v[1]⟩ : Targets Float32).Suits [1, 2] := by
    refine ⟨rfl, rfl, by rintro _ ⟨⟩, ?_, by decide⟩
    rintro _ ⟨⟩
    unfold Targets.Names
    decide
  have hweighted : weighted.Suits [1, 2, 1, 2] := by
    refine ⟨rfl, rfl, by rintro _ ⟨⟩; rfl, ?_, by decide⟩
    rintro _ ⟨⟩
    unfold Targets.Names
    decide
  have hplain : plain.Suits [1, 2, 1, 2] := by
    refine ⟨rfl, rfl, by rintro _ ⟨⟩, ?_, by decide⟩
    rintro _ ⟨⟩
    unfold Targets.Names
    decide
  obtain ⟨_, hrow⟩ := (exists_forward_iff _ row).mpr hrow
  obtain ⟨_, hweighted⟩ := (exists_forward_iff weighted ⟨[1, 2, 1, 2], x⟩).mpr hweighted
  obtain ⟨_, hplain⟩ := (exists_forward_iff plain ⟨[1, 2, 1, 2], x⟩).mpr hplain
  have hpixels := probabilities_oblivious hweighted
  exact ⟨(probabilities_oblivious hrow).1 rfl, hpixels.2.1 plain _ hplain,
    hpixels.2.2 1 2 1 2 x rfl⟩

end CrossEntropy
