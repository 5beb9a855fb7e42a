import CrossEntropy.Shape

/-!
# Tensors and operations

A tensor is a shape and as many entries as the shape says, in row-major order. An operation under
test maps scores, its one differentiable input, to tensors. Whatever else it needs, labels or
weights or an axis, is part of the operation.

* `Tensor.map`, `Tensor.replace`, `Tensor.scalar`, `Tensor.ofArray?`;
* `Tensor.expectRank`, `Tensor.expectShape`: the two demands made of a tensor before it is used;
* `Tensor.reshape`: the same entries under an equal shape;
* `Tensor.transpose`: the tensor with its dimensions in reverse order;
* `Operation`: name, outputs, forward and backward pass;
* `onlyEntry`: the gradient of an objective with respect to a single number.
-/

namespace CrossEntropy

/-- Entries in row-major order, as many as the shape has places. -/
structure Tensor (α : Type) where
  shape : Shape
  entries : Vector α (Shape.size shape)
  deriving DecidableEq, Repr

namespace Tensor

variable {α β : Type}

/-- The number of entries. -/
abbrev size (x : Tensor α) : Nat := Shape.size x.shape

/-- The multi-index of an entry. -/
def index (x : Tensor α) (k : Fin x.size) : List Nat := Shape.unravel x.shape k

/-- The tensor of rank 0 with one entry. -/
def scalar (a : α) : Tensor α := ⟨[], #v[a]⟩

/-- The tensor with a shape and entries, if their number is right. -/
def ofArray? (shape : Shape) (entries : Array α) : Option (Tensor α) :=
  if h : entries.size = Shape.size shape then some ⟨shape, ⟨entries, h⟩⟩ else none

/-- The tensor of what a function makes of the entries. -/
@[inline] def map (f : α → β) (x : Tensor α) : Tensor β := ⟨x.shape, x.entries.map f⟩

/-- The tensor with one entry replaced. -/
def replace (x : Tensor α) (k : Fin x.size) (a : α) : Tensor α :=
  ⟨x.shape, x.entries.set k a⟩

/-- The entries under an equal shape. -/
def reshape (x : Tensor α) {shape : Shape} (h : x.shape = shape) :
    Vector α (Shape.size shape) :=
  x.entries.cast (by rw [h])

/-- The tensor with its dimensions in reverse order. -/
def transpose (x : Tensor α) : Tensor α :=
  ⟨x.shape.reverse, Vector.ofFn fun k =>
    x.entries.get ((Shape.reversed x.shape.reverse k).cast (by rw [List.reverse_reverse]))⟩

/-- Demands a rank of the tensor. -/
def expectRank (rank : Nat) (x : Tensor α) : Except ShapeError Unit :=
  if x.shape.length = rank then .ok () else .error (.wrongRank rank x.shape)

/-- Demands a shape of the tensor that errors call `input`, and gives the entries under it. -/
def expectShape (input : String) (expected : Shape) (x : Tensor α) :
    Except ShapeError (Vector α (Shape.size expected)) :=
  if h : x.shape = expected then .ok (x.reshape h)
  else .error (.mismatch input expected x.shape)

@[simp] theorem shape_map (f : α → β) (x : Tensor α) : (x.map f).shape = x.shape := rfl

@[simp] theorem shape_replace (x : Tensor α) (k : Fin x.size) (a : α) :
    (x.replace k a).shape = x.shape := rfl

end Tensor

/-! ## Operations -/

/-- An operation under test. -/
structure Operation (S : Type) where
  name : String
  outputCount : Nat
  /-- The outputs for given scores. -/
  forward : Tensor S → Except ShapeError (List (Tensor S))
  /-- The gradient with respect to the scores, from the gradient of an objective with respect
  to the output of the given number. -/
  backward (outGradient scores : Tensor S) (output : Nat) : Except ShapeError (Tensor S)

/-- The one entry of a gradient with respect to a number, whatever the rank. -/
def onlyEntry {S : Type} (outGradient : Tensor S) : Except ShapeError S :=
  if h : outGradient.size = 1 then
    .ok (outGradient.entries.get ⟨0, Nat.lt_of_lt_of_eq Nat.one_pos h.symm⟩)
  else .error (.mismatch "out_gradient" [] outGradient.shape)

end CrossEntropy
