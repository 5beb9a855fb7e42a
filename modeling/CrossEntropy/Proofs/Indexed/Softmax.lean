import CrossEntropy.Proofs.Indexed.Access
import CrossEntropy.Proofs.Probabilities
import CrossEntropy.Proofs.SoftmaxReference

/-!
# Softmax by index

The softmax operation as a program that turns its input into a matrix, walks over the lanes of an
axis that must exist, and turns the matrix back. It never stops, and is the softmax operation.

* `Operation`, `Operation.Renders`: operations that may stop, and those that are operations;
* `Split.cast`: lanes of the entries of a tensor under another shape;
* `flattenedDimensions`: a shape split at an axis that must exist;
* `reshape`, `asRows`: the same entries under another shape;
* `softmaxLanes`, `softmaxBackwardLanes`: walks over lanes along the class axis;
* **`softmax_renders`**: what comes of it.
-/

namespace CrossEntropy

/-! ## Equal numbers of entries -/

namespace Split

variable {a b : Nat} (h : a = b) (s : Split a)

/-- The same lanes of a number of entries that is the same. -/
def cast : Split b where
  outer := s.outer
  classes := s.classes
  inner := s.inner
  size_eq := h.symm.trans s.size_eq

theorem cast_lanes {α : Type} (x : Vector α a) : (s.cast h).lanes (x.cast h) = s.lanes x := by
  subst h
  rfl

variable {S : Type} [Scalar S]

theorem cast_softmax (x : Vector S a) :
    ((s.cast h).softmax (x.cast h)).cast h.symm = s.softmax x := by
  subst h
  rfl

theorem cast_softmaxBackward (x g : Vector S a) :
    ((s.cast h).softmaxBackward (x.cast h) (g.cast h)).cast h.symm = s.softmaxBackward x g := by
  subst h
  rfl

end Split

namespace Indexed

variable {S : Type}

/-- An operation that reaches into its inputs by index. -/
structure Operation (S : Type) where
  outputCount : Nat
  forward : Tensor S → Run ShapeError (List (Tensor S))
  backward (outGradient scores : Tensor S) (output : Nat) : Run ShapeError (Tensor S)

/-- It never stops, and its outcomes are those of another operation. -/
structure Operation.Renders (indexed : Operation S) (operation : CrossEntropy.Operation S) :
    Prop where
  outputCount : indexed.outputCount = operation.outputCount
  forward (scores : Tensor S) : indexed.forward scores = settled (operation.forward scores)
  backward (outGradient scores : Tensor S) (output : Nat) :
    indexed.backward outGradient scores output =
      settled (operation.backward outGradient scores output)

/-! ## Matrices -/

/-- The same entries under another shape, of a tensor that errors call `input`. -/
def reshape (input : String) (shape : Shape) (x : Tensor S) : Except ShapeError (Tensor S) :=
  if h : x.size = Shape.size shape then .ok ⟨shape, x.entries.cast h⟩
  else .error (.mismatch input shape x.shape)

theorem reshape_eq {input : String} {s t : Shape} (h : Shape.size s = Shape.size t)
    (x : Vector S (Shape.size s)) : reshape input t ⟨s, x⟩ = .ok ⟨t, x.cast h⟩ :=
  dif_pos h

/-- The dimensions before an axis, and those from it on. -/
def slices (shape : Shape) (axis : Nat) : Option (Shape × Shape) :=
  if axis ≤ shape.length then some (shape.take axis, shape.drop axis) else none

/-- The numbers of rows and classes of a shape that is split at an axis. -/
def flattenedDimensions (shape : Shape) (axis : Nat) : Run ShapeError (Nat × Nat) := do
  if shape.length < axis then settled (.error (.axisOutOfRange axis shape.length)) else
    let (before, after) ← access (slices shape axis)
    if Shape.size after = 0 then settled (.error (.noClasses shape))
    else return (Shape.size before, Shape.size after)

theorem flattenedDimensions_eq (shape : Shape) (axis : Nat) :
    flattenedDimensions shape axis = settled (CrossEntropy.flattenedDimensions shape axis) := by
  unfold flattenedDimensions CrossEntropy.flattenedDimensions slices
  by_cases haxis : shape.length < axis
  · rw [if_pos haxis, if_pos haxis]
  · rw [if_neg haxis, if_neg haxis, if_pos (Nat.not_lt.mp haxis)]
    show (if Shape.size (shape.drop axis) = 0 then _ else _) = settled (if _ then _ else _)
    by_cases hclasses : Shape.size (shape.drop axis) = 0
    · rw [if_pos hclasses, if_pos hclasses]
    · rw [if_neg hclasses, if_neg hclasses]
      rfl

/-- Everything from an axis on as the rows of a matrix. -/
def asRows (axis : Nat) (x : Tensor S) : Run ShapeError (Tensor S) := do
  let (n, d) ← flattenedDimensions x.shape axis
  settled (reshape "scores" [n, d] x)

section Matrix

variable {shape : Shape} {axis n d : Nat}

theorem size_eq_of_flattenedDimensions
    (h : CrossEntropy.flattenedDimensions shape axis = .ok (n, d)) :
    Shape.size shape = Shape.size [n, d] := by
  obtain ⟨rfl, rfl⟩ := flattenedDimensions_eq_ok h
  have hsize := Shape.size_take_mul_drop shape axis
  rw [← hsize]
  simp

theorem asRows_eq (h : CrossEntropy.flattenedDimensions shape axis = .ok (n, d))
    (x : Vector S (Shape.size shape)) :
    asRows axis ⟨shape, x⟩ =
      settled (.ok ⟨[n, d], x.cast (size_eq_of_flattenedDimensions h)⟩) := by
  unfold asRows
  rw [flattenedDimensions_eq, h, settled_ok_bind]
  exact congrArg settled (reshape_eq (size_eq_of_flattenedDimensions h) x)

theorem asRows_eq_error {e : ShapeError} (h : CrossEntropy.flattenedDimensions shape axis = .error e)
    (x : Vector S (Shape.size shape)) : asRows axis ⟨shape, x⟩ = settled (.error e) := by
  unfold asRows
  rw [flattenedDimensions_eq, h]
  rfl

end Matrix

variable [Scalar S]

/-! ## Lanes along the class axis -/

/-- The softmax of every lane. -/
def softmaxLanes (x : Tensor S) : Option (Tensor S) := do
  let s ← Split.along x.shape defaultAxis
  return ⟨x.shape, s.softmax x.entries⟩

/-- The entries of a tensor that is walked over in step with one of the given shape. -/
def inStep {α : Type} (x : Tensor α) (shape : Shape) : Option (Vector α (Shape.size shape)) :=
  if h : x.shape = shape then some (x.reshape h) else none

theorem inStep_eq {α : Type} {shape : Shape} (x : Vector α (Shape.size shape)) :
    inStep ⟨shape, x⟩ shape = some x :=
  dif_pos rfl

/-- The gradient by the scores of every lane, from the probabilities of the lane and the gradient by
them. Both must have as many lanes, and lanes of one length. -/
def softmaxBackwardLanes (probabilities outGradient : Tensor S) : Option (Tensor S) := do
  let s ← Split.along probabilities.shape defaultAxis
  let _ ← Split.along outGradient.shape defaultAxis
  let outEntries ← inStep outGradient probabilities.shape
  return ⟨probabilities.shape,
    s.join (CrossEntropy.softmaxBackwardLanes (s.lanes probabilities.entries)
      (s.lanes outEntries))⟩

section Lanes

variable {n d : Nat} {rest : Shape}

theorem softmaxLanes_eq (x : Vector S (Shape.size (n :: d :: rest))) :
    softmaxLanes ⟨n :: d :: rest, x⟩ =
      some ⟨n :: d :: rest, (Split.classAxis n d rest).softmax x⟩ := by
  unfold softmaxLanes
  simp only [along_classAxis]
  rfl

theorem softmaxBackwardLanes_eq (x g : Vector S (Shape.size (n :: d :: rest))) :
    softmaxBackwardLanes ⟨n :: d :: rest, (Split.classAxis n d rest).softmax x⟩
        ⟨n :: d :: rest, g⟩ =
      some ⟨n :: d :: rest, (Split.classAxis n d rest).softmaxBackward x g⟩ := by
  have hlanes : (Split.classAxis n d rest).lanes ((Split.classAxis n d rest).softmax x) =
      CrossEntropy.softmaxLanes ((Split.classAxis n d rest).lanes x) := Split.lanes_join _ _
  unfold softmaxBackwardLanes
  simp only [along_classAxis, inStep_eq]
  exact congrArg (fun p => some (Tensor.mk (n :: d :: rest)
    ((Split.classAxis n d rest).join (CrossEntropy.softmaxBackwardLanes p _)))) hlanes

end Lanes

/-! ## The operation -/

/-- Softmax over everything from an axis on, by way of a matrix. -/
def softmaxForward (axis : Nat) (scores : Tensor S) : Run ShapeError (Tensor S) := do
  let rows ← asRows axis scores
  let probabilities ← access (softmaxLanes rows)
  settled (reshape "rows" scores.shape probabilities)

/-- The gradient of softmax over everything from an axis on, by way of matrices. -/
def softmaxBackward (axis : Nat) (outGradient scores : Tensor S) : Run ShapeError (Tensor S) := do
  let _ ← settled (outGradient.expectShape "out_gradient" scores.shape)
  let rows ← asRows axis scores
  let probabilities ← access (softmaxLanes rows)
  let outRows ← asRows axis outGradient
  let gradient ← access (softmaxBackwardLanes probabilities outRows)
  settled (reshape "rows" scores.shape gradient)

/-- Softmax over everything from an axis on. -/
def softmax (axis : Nat) : Operation S where
  outputCount := 1
  forward scores := do return [← softmaxForward axis scores]
  backward outGradient scores output :=
    if output = 0 then softmaxBackward axis outGradient scores
    else settled (.error (.noSuchOutput output))

theorem softmaxForward_eq (axis : Nat) (scores : Tensor S) :
    softmaxForward axis scores = settled (CrossEntropy.softmaxForward axis scores) := by
  obtain ⟨shape, x⟩ := scores
  unfold softmaxForward CrossEntropy.softmaxForward
  rw [rows_eq_map]
  cases h : CrossEntropy.flattenedDimensions shape axis with
  | error e =>
    rw [asRows_eq_error h]
    rfl
  | ok dimensions =>
    obtain ⟨n, d⟩ := dimensions
    have hsize := size_eq_of_flattenedDimensions h
    obtain ⟨rfl, rfl⟩ := flattenedDimensions_eq_ok h
    rw [asRows_eq h, settled_ok_bind, softmaxLanes_eq, access_some, settled_ok_bind,
      reshape_eq hsize.symm]
    have hcast := (Split.flattened shape axis).cast_softmax hsize x
    exact congrArg (fun y => settled (.ok (Tensor.mk shape y))) hcast

theorem softmaxBackward_eq (axis : Nat) (outGradient scores : Tensor S) :
    softmaxBackward axis outGradient scores =
      settled (CrossEntropy.softmaxBackward axis outGradient scores) := by
  obtain ⟨shape, x⟩ := scores
  unfold softmaxBackward CrossEntropy.softmaxBackward
  apply settled_bind
  intro g hg
  rw [expectShape_eq_ok_iff] at hg
  subst hg
  rw [rows_eq_map]
  cases h : CrossEntropy.flattenedDimensions shape axis with
  | error e =>
    rw [asRows_eq_error h]
    rfl
  | ok dimensions =>
    obtain ⟨n, d⟩ := dimensions
    have hsize := size_eq_of_flattenedDimensions h
    obtain ⟨rfl, rfl⟩ := flattenedDimensions_eq_ok h
    rw [asRows_eq h, settled_ok_bind, softmaxLanes_eq, access_some, settled_ok_bind, asRows_eq h,
      settled_ok_bind, softmaxBackwardLanes_eq, access_some, settled_ok_bind,
      reshape_eq hsize.symm]
    have hcast := (Split.flattened shape axis).cast_softmaxBackward hsize x g
    exact congrArg (fun y => settled (.ok (Tensor.mk shape y))) hcast

/-- **Softmax never accesses anything out of bounds.** -/
theorem softmax_renders (axis : Nat) :
    (softmax axis : Operation S).Renders (CrossEntropy.softmax axis) := by
  constructor
  · rfl
  · intro scores
    show softmaxForward axis scores >>= _ = _
    rw [softmaxForward_eq]
    apply settled_bind
    intro p _
    rfl
  · intro outGradient scores output
    show (if output = 0 then softmaxBackward axis outGradient scores
      else settled (.error (.noSuchOutput output))) = settled (if output = 0 then _ else _)
    by_cases houtput : output = 0
    · rw [if_pos houtput, if_pos houtput]
      exact softmaxBackward_eq axis outGradient scores
    · rw [if_neg houtput, if_neg houtput]

end Indexed

end CrossEntropy
