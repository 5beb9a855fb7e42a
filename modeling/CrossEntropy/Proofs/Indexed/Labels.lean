import CrossEntropy.Proofs.Fits
import CrossEntropy.Proofs.Indexed.Access
import CrossEntropy.Proofs.Labels

/-!
# Labels as indices

Programs test their labels first and use them as indices later, as they are. What passes the tests
is within bounds.

* `asIndex`: the index that a label is cast to;
* `validateLabels`, `validateLabels_eq`: the tests, which accept the labels that can be read;
* **`asIndex_of_class`, `asIndex_of_mark`**: labels that can be read are indices of classes;
* `weightAt`: the weight that lies where a label does;
* `atCounted`, `atCounted_eq`: what is done at a location unless its label is ignored.
-/

namespace CrossEntropy.Indexed

/-- A label as an index of 64 bits. A negative one wraps around. -/
def asIndex (label : Int32) : Nat := (label.toInt % 2 ^ 64).toNat

/-- Whether a label is none of the classes, and not one that may be ignored either. -/
def isNameless (classes : Nat) (mayIgnore : Bool) (label : Int32) : Bool :=
  !(mayIgnore && label == ignoredLabel) && (label < 0 || classes ≤ asIndex label)

/-- Demands that every label names a class or may be ignored. -/
def validateLabels (classes : Nat) (mayIgnore : Bool) (labels : Tensor Int32) :
    Except ShapeError Unit :=
  match labels.entries.findFinIdx? (isNameless classes mayIgnore) with
  | some k => .error (.labelOutOfRange (labels.entries.get k) (labels.index k) classes)
  | none => .ok ()

variable {d : Nat} {label : Int32}

theorem asIndex_of_toInt {c : Nat} (h : label.toInt = c) : asIndex label = c := by
  have := label.toInt_lt
  unfold asIndex
  omega

theorem isNameless_eq_class : isNameless d false label = (classOf? d label).isNone := by
  have hbound := label.toInt_lt
  have hneg : label < 0 ↔ label.toInt < 0 := Int32.lt_iff_toInt_lt
  unfold classOf?
  by_cases h : 0 ≤ label.toInt ∧ label.toInt < d
  · have hindex : ¬ (label.toInt < 0 ∨ d ≤ asIndex label) := by
      unfold asIndex
      omega
    rw [dif_pos h]
    simpa [isNameless, hneg] using hindex
  · have hindex : label.toInt < 0 ∨ d ≤ asIndex label := by
      unfold asIndex
      omega
    rw [dif_neg h]
    simpa [isNameless, hneg] using hindex

theorem isNameless_eq_mark : isNameless d true label = (markOf? d label).isNone := by
  unfold markOf?
  by_cases hlabel : label = ignoredLabel
  · simp [isNameless, hlabel]
  · rw [if_neg hlabel, Option.isNone_map, ← isNameless_eq_class]
    simp [isNameless, hlabel]

/-- The tests accept the labels that can be read, and report the same label otherwise. -/
theorem validateLabels_eq {β : Type} {mayIgnore : Bool} {reading : Int32 → Option β}
    (h : ∀ label, isNameless d mayIgnore label = (reading label).isNone) (labels : Tensor Int32) :
    validateLabels d mayIgnore labels = (readLabels d reading labels).map fun _ => () := by
  unfold validateLabels readLabels
  rw [show isNameless d mayIgnore = fun label => (reading label).isNone from funext h]
  split <;> split <;> simp_all [Except.map]

theorem asIndex_of_class {labels : Tensor Int32} {classes : Vector (Fin d) labels.size}
    (hread : readLabels d (classOf? d) labels = .ok classes) (k : Fin labels.size) :
    asIndex (labels.entries.get k) = classes.get k :=
  asIndex_of_toInt (classOf?_eq_some_iff.mp (read_get hread k))

theorem asIndex_of_mark {labels : Tensor Int32} {marks : Vector (Option (Fin d)) labels.size}
    (hread : readLabels d (markOf? d) labels = .ok marks) {k : Fin labels.size} {c : Fin d}
    (hk : marks.get k = some c) : asIndex (labels.entries.get k) = c := by
  have hmark := read_get hread k
  rw [hk] at hmark
  exact asIndex_of_toInt (markOf?_eq_some_some_iff.mp hmark)

theorem ne_ignored_of_mark {labels : Tensor Int32}
    {marks : Vector (Option (Fin d)) labels.size}
    (hread : readLabels d (markOf? d) labels = .ok marks) {k : Fin labels.size} {c : Fin d}
    (hk : marks.get k = some c) : labels.entries.get k ≠ ignoredLabel := by
  intro hignored
  rw [(eq_ignored_iff_mark hread k).mp hignored] at hk
  cases hk

/-! ## Weighted labels -/

section Weights

variable {S β : Type} [Scalar S]

/-- The weight at a location, one where no weights are given. -/
def weightAt (weights : Option (Tensor S)) (location : List Nat) : Option S :=
  match weights with
  | none => some 1
  | some weights => read weights location

theorem weightAt_unravel {s : Shape} (weights : Option (Vector S (Shape.size s)))
    (k : Fin (Shape.size s)) :
    weightAt (weights.map (Tensor.mk s)) (s.unravel k) = some (weightOf weights k) := by
  cases weights with
  | none => rfl
  | some weights => exact read_unravel weights k

/-- What is made of the index of a location's label and of its weight, or what there was before if
the label is ignored. -/
def atCounted (labels : Tensor Int32) (weights : Option (Tensor S)) (location : List Nat) (before : β)
    (counted : Nat → S → Option β) : Option β := do
  let label ← read labels location
  if label = ignoredLabel then return before
  let weight ← weightAt weights location
  counted (asIndex label) weight

theorem atCounted_eq {s : Shape} {entries : Vector Int32 (Shape.size s)}
    {marks : Vector (Option (Fin d)) (Shape.size s)}
    (hread : readLabels d (markOf? d) ⟨s, entries⟩ = .ok marks)
    (weights : Option (Vector S (Shape.size s))) (l : Fin (Shape.size s)) (before : β)
    (counted : Nat → S → Option β) :
    atCounted ⟨s, entries⟩ (weights.map (Tensor.mk s)) (s.unravel l) before counted =
      match marks.get l with
      | none => some before
      | some c => counted c (weightOf weights l) := by
  unfold atCounted
  simp only [read_unravel, weightAt_unravel, Option.bind_eq_bind, Option.bind_some]
  cases hmark : marks.get l with
  | none =>
    have hignored : entries.get l = ignoredLabel := (eq_ignored_iff_mark hread l).mpr hmark
    rw [if_pos hignored]
    rfl
  | some c =>
    have hindex : asIndex (entries.get l) = c := asIndex_of_mark hread hmark
    have hcounted : entries.get l ≠ ignoredLabel := ne_ignored_of_mark hread hmark
    rw [if_neg hcounted, hindex]

end Weights

end CrossEntropy.Indexed
