import CrossEntropy.Tensor

/-!
# Labels

A label names a class by its number. In pixel-wise problems one more label says that a location
is to be left out.

* `classOf?`: the class a label names;
* `markOf?`: the same, where a location may be ignored;
* `readLabels`: reads every label, or reports the first, in row-major order, that cannot be read;
* **`readLabels_eq_ok_iff`**: labels can be read exactly if each of them can.
-/

namespace CrossEntropy

/-- The label of a location that contributes nothing to the loss. -/
def ignoredLabel : Int32 := -1

/-- The class that a label names. -/
def classOf? (classes : Nat) (label : Int32) : Option (Fin classes) :=
  if h : 0 ≤ label.toInt ∧ label.toInt < classes then some ⟨label.toInt.toNat, by omega⟩
  else none

/-- The class that a label names, or `none` for an ignored location. -/
def markOf? (classes : Nat) (label : Int32) : Option (Option (Fin classes)) :=
  if label = ignoredLabel then some none else (classOf? classes label).map some

variable {β : Type}

/-- What `read` makes of every label, or the first label of which it makes nothing. -/
def readLabels (classes : Nat) (read : Int32 → Option β) (labels : Tensor Int32) :
    Except ShapeError (Vector β labels.size) :=
  match h : labels.entries.findFinIdx? fun label => (read label).isNone with
  | some k => .error (.labelOutOfRange (labels.entries.get k) (labels.index k) classes)
  | none =>
    .ok <| labels.entries.attach.map fun label => (read label.1).get <| by
      simpa [Option.isSome_iff_ne_none] using
        Vector.findFinIdx?_eq_none_iff.mp h label.1 label.2

theorem findFinIdx?_eq_some_iff {α : Type} {n : Nat} {xs : Vector α n} {p : α → Bool}
    {k : Fin n} :
    xs.findFinIdx? p = some k ↔ p (xs.get k) = true ∧ ∀ j < k, ¬ p (xs.get j) = true := by
  rcases xs with ⟨xs, rfl⟩
  simp [Vector.findFinIdx?, Array.findFinIdx?_eq_some_iff, Vector.get]

/-- **Labels can be read exactly if each of them can**, and then the readings are theirs. -/
theorem readLabels_eq_ok_iff {classes : Nat} {read : Int32 → Option β} {labels : Tensor Int32}
    {readings : Vector β labels.size} :
    readLabels classes read labels = .ok readings ↔
      labels.entries.map read = readings.map some := by
  unfold readLabels
  split
  next k h =>
    have hk : read (labels.entries.get k) = none := by
      simpa using (findFinIdx?_eq_some_iff.mp h).1
    refine ⟨fun h => (nomatch h), fun h => ?_⟩
    have hs : read labels.entries[k.val] = some readings[k.val] := by
      simpa using congrArg (fun v => v[k.val]) h
    exact absurd (hk.symm.trans hs) (by simp)
  next h =>
    simp only [Except.ok.injEq]
    constructor
    · rintro rfl
      ext i hi
      simp
    · intro h
      ext i hi
      have hi : read labels.entries[i] = some readings[i] := by
        simpa using congrArg (fun v => v[i]) h
      simp [hi]

end CrossEntropy
