/-!
# Shapes

A shape lists the sizes of a tensor's dimensions, outermost first. Entries are numbered in
row-major order. Inputs whose shapes do not fit together are refused before anything is computed.

* `Shape.size`: the number of entries;
* `Shape.ravel`, `Shape.unravel`: from a multi-index to its number and back;
* `Shape.reversed`: the number of an entry once the dimensions are reversed;
* `Shape.size_append`, `Shape.size_take_mul_drop`: cutting a shape in two factors its size;
* `ShapeError`, `ShapeError.message`: why inputs are refused, and what is told about it.
-/

namespace CrossEntropy

/-- Sizes of the dimensions, outermost first. -/
abbrev Shape := List Nat

namespace Shape

/-- The number of entries of a tensor of a shape. -/
def size : Shape → Nat
  | [] => 1
  | k :: s => k * size s

/-- The row-major number of a multi-index. -/
def ravel : Shape → List Nat → Nat
  | _ :: s, i :: index => i * size s + ravel s index
  | _, _ => 0

/-- The multi-index with a given row-major number. -/
def unravel : Shape → Nat → List Nat
  | [], _ => []
  | _ :: s, number => number / size s :: unravel s (number % size s)

/-- A shape in brackets, as messages show it. -/
def text (s : Shape) : String :=
  "[" ++ ", ".intercalate (s.map toString) ++ "]"

@[simp] theorem size_nil : size [] = 1 := rfl

@[simp] theorem size_cons (k : Nat) (s : Shape) : size (k :: s) = k * size s := rfl

theorem size_append (s t : Shape) : size (s ++ t) = size s * size t := by
  induction s with
  | nil => simp
  | cons k s ih => simp [ih, Nat.mul_assoc]

/-- **A shape cut at an axis factors its size.** -/
theorem size_take_mul_drop (s : Shape) (axis : Nat) :
    size (s.take axis) * size (s.drop axis) = size s := by
  rw [← size_append, List.take_append_drop]

@[simp] theorem length_unravel (s : Shape) (number : Nat) :
    (unravel s number).length = s.length := by
  induction s generalizing number with
  | nil => rfl
  | cons k s ih => simp [unravel, ih]

theorem ravel_unravel {s : Shape} {number : Nat} (h : number < size s) :
    ravel s (unravel s number) = number := by
  induction s generalizing number with
  | nil => simp_all [ravel]
  | cons k s ih =>
    have hs : 0 < size s := Nat.pos_of_ne_zero fun hs => by simp [hs] at h
    rw [unravel, ravel, ih (Nat.mod_lt _ hs), Nat.mul_comm, Nat.div_add_mod]

/-! ## Indices within a shape -/

/-- An index has as many parts as the shape, each below the size of its dimension. -/
def Contains : Shape → List Nat → Prop
  | [], [] => True
  | k :: s, i :: index => i < k ∧ Contains s index
  | _, _ => False

theorem contains_unravel {s : Shape} {number : Nat} (h : number < size s) :
    Contains s (unravel s number) := by
  induction s generalizing number with
  | nil => trivial
  | cons k s ih =>
    have hs : 0 < size s := Nat.pos_of_ne_zero fun hs => by simp [hs] at h
    exact ⟨Nat.div_lt_of_lt_mul (by rwa [Nat.mul_comm]), ih (Nat.mod_lt _ hs)⟩

theorem ravel_lt {s : Shape} {index : List Nat} (h : Contains s index) :
    ravel s index < size s := by
  induction s generalizing index with
  | nil => cases index with
    | nil => exact Nat.one_pos
    | cons => exact h.elim
  | cons k s ih => cases index with
    | nil => exact h.elim
    | cons i index =>
      have hi := Nat.mul_le_mul_right (size s) (Nat.succ_le_of_lt h.1)
      have hs := ih h.2
      simp only [ravel, size_cons, Nat.succ_mul] at *
      omega

theorem unravel_ravel {s : Shape} {index : List Nat} (h : Contains s index) :
    unravel s (ravel s index) = index := by
  induction s generalizing index with
  | nil => cases index with
    | nil => rfl
    | cons => exact h.elim
  | cons k s ih => cases index with
    | nil => exact h.elim
    | cons i index =>
      have hs := ravel_lt h.2
      have hpos : 0 < size s := Nat.lt_of_le_of_lt (Nat.zero_le _) hs
      rw [ravel, unravel, Nat.mul_comm, Nat.mul_add_div hpos, Nat.mul_add_mod,
        Nat.div_eq_of_lt hs, Nat.mod_eq_of_lt hs, ih h.2, Nat.add_zero]

theorem contains_append {s t : Shape} {i j : List Nat} (hs : Contains s i) (ht : Contains t j) :
    Contains (s ++ t) (i ++ j) := by
  induction s generalizing i with
  | nil => cases i with
    | nil => exact ht
    | cons => exact hs.elim
  | cons k s ih => cases i with
    | nil => exact hs.elim
    | cons i index => exact ⟨hs.1, ih hs.2⟩

theorem contains_reverse {s : Shape} {index : List Nat} (h : Contains s index) :
    Contains s.reverse index.reverse := by
  induction s generalizing index with
  | nil => cases index with
    | nil => exact h
    | cons => exact h.elim
  | cons k s ih => cases index with
    | nil => exact h.elim
    | cons i index =>
      rw [List.reverse_cons, List.reverse_cons]
      exact contains_append (ih h.2) ⟨h.1, trivial⟩

/-- The number of an entry once the dimensions are reversed. -/
def reversed (s : Shape) (k : Fin (size s)) : Fin (size s.reverse) :=
  ⟨ravel s.reverse (unravel s k).reverse, ravel_lt (contains_reverse (contains_unravel k.isLt))⟩

end Shape

/-! ## Shape errors -/

/-- Why inputs do not fit together. -/
inductive ShapeError
  /-- An axis past the end of a tensor of the given rank. -/
  | axisOutOfRange (axis rank : Nat)
  /-- A tensor of another rank than expected. -/
  | wrongRank (expected : Nat) (actual : Shape)
  /-- Distributions over no class at all. -/
  | noClasses (shape : Shape)
  /-- A named tensor of another shape than expected. -/
  | mismatch (input : String) (expected actual : Shape)
  /-- The label at an index names none of the classes. -/
  | labelOutOfRange (label : Int32) (index : List Nat) (classes : Nat)
  /-- An operator has no output of this number. -/
  | noSuchOutput (output : Nat)
  /-- A tensor that a case needs is absent. -/
  | missingInput (input : String)
  deriving DecidableEq, Repr

/-- What is told about a shape error. -/
def ShapeError.message : ShapeError → String
  | axisOutOfRange axis rank => s!"axis {axis} out of range for tensor of rank {rank}"
  | wrongRank expected actual =>
    s!"expected a tensor of rank {expected}, got shape " ++ Shape.text actual
  | noClasses shape => "class dimension must be nonempty, got shape " ++ Shape.text shape
  | mismatch input expected actual =>
    input ++ " has shape " ++ Shape.text actual ++ ", expected " ++ Shape.text expected
  | labelOutOfRange label index classes =>
    s!"label {label.toInt} at " ++ Shape.text index ++ s!" is not a class in 0..{classes}"
  | noSuchOutput output => s!"operation has no output {output}"
  | missingInput input => "missing " ++ input

end CrossEntropy
