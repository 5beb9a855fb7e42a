import Mathlib
import CrossEntropy.Label

/-!
# Labels and classes

What it says about a label that it can be read, as a class or as the mark of a location.

* `classOf?_eq_some_iff`, `markOf?_eq_some_some_iff`, `markOf?_eq_some_none_iff`: single labels;
* `read_get`, **`readLabels_eq_error_iff`**: what is read, and the first label that cannot be;
* `readLabels_cases`: all labels are read, or one is reported that cannot be;
* `classOf?_eq_none_iff`, `markOf?_eq_none_iff`: the labels that cannot be read;
* `isSome_classOf?`, `isSome_markOf?`, `readLabels_of_forall`: labels within their range are read;
* `toInt_eq_iff_class`, `toInt_eq_iff_mark`, `eq_ignored_iff_mark`: a label's number is its reading.
-/

namespace CrossEntropy

theorem classOf?_eq_some_iff {d : Nat} {label : Int32} {c : Fin d} :
    classOf? d label = some c ↔ label.toInt = (c : Nat) := by
  unfold classOf?
  constructor
  · intro h
    split at h
    next hlabel =>
      have hc : label.toInt.toNat = c := congrArg Fin.val (Option.some_inj.mp h)
      omega
    next => cases h
  · intro h
    have hc := c.isLt
    rw [dif_pos (by omega), Option.some_inj]
    exact Fin.ext (by simp [h])

theorem markOf?_eq_some_some_iff {d : Nat} {label : Int32} {c : Fin d} :
    markOf? d label = some (some c) ↔ label.toInt = (c : Nat) := by
  unfold markOf?
  split
  next hlabel =>
    subst hlabel
    have : ignoredLabel.toInt = -1 := rfl
    simp only [Option.some_inj, reduceCtorEq, false_iff]
    omega
  next => simp [classOf?_eq_some_iff]

theorem markOf?_eq_some_none_iff {d : Nat} {label : Int32} :
    markOf? d label = some none ↔ label = ignoredLabel := by
  unfold markOf?
  split <;> simp [*]

theorem read_get {β : Type} {d : Nat} {read : Int32 → Option β} {labels : Tensor Int32}
    {readings : Vector β labels.size} (hread : readLabels d read labels = .ok readings)
    (k : Fin labels.size) : read (labels.entries.get k) = some (readings.get k) := by
  have h := congrArg (Vector.get · k) (readLabels_eq_ok_iff.mp hread)
  simpa only [Vector.get_map] using h

/-- The label that is reported is the first that cannot be read. -/
theorem readLabels_eq_error_iff {β : Type} {d : Nat} {read : Int32 → Option β}
    {labels : Tensor Int32} {e : ShapeError} :
    readLabels d read labels = .error e ↔ ∃ k, read (labels.entries.get k) = none ∧
      (∀ j < k, read (labels.entries.get j) ≠ none) ∧
      .labelOutOfRange (labels.entries.get k) (labels.index k) d = e := by
  have hfirst {k} : (labels.entries.findFinIdx? fun label => (read label).isNone) = some k ↔
      read (labels.entries.get k) = none ∧ ∀ j < k, read (labels.entries.get j) ≠ none := by
    simp [findFinIdx?_eq_some_iff]
  unfold readLabels
  split
  next k hk =>
    constructor
    · intro h
      cases h
      exact ⟨k, (hfirst.mp hk).1, (hfirst.mp hk).2, rfl⟩
    · rintro ⟨k', hk', hbefore, rfl⟩
      cases hk.symm.trans (hfirst.mpr ⟨hk', hbefore⟩)
      rfl
  next hnone =>
    refine iff_of_false (by simp) ?_
    rintro ⟨k, hk, hbefore, -⟩
    cases hnone.symm.trans (hfirst.mpr ⟨hk, hbefore⟩)

theorem readLabels_cases {β : Type} (d : Nat) (read : Int32 → Option β) (labels : Tensor Int32) :
    (∃ readings : Vector β labels.size, readLabels d read labels = .ok readings ∧
      ∀ k, read (labels.entries.get k) = some (readings.get k)) ∨
    ∃ k, read (labels.entries.get k) = none ∧ readLabels d read labels =
      .error (.labelOutOfRange (labels.entries.get k) (labels.index k) d) := by
  cases h : readLabels d read labels with
  | ok readings => exact .inl ⟨readings, rfl, read_get h⟩
  | error e =>
    obtain ⟨k, hk, -, rfl⟩ := readLabels_eq_error_iff.mp h
    exact .inr ⟨k, hk, rfl⟩

theorem classOf?_eq_none_iff {d : Nat} {label : Int32} :
    classOf? d label = none ↔ ¬ (0 ≤ label.toInt ∧ label.toInt < d) := by
  unfold classOf?
  split <;> simp [*]

theorem markOf?_eq_none_iff {d : Nat} {label : Int32} :
    markOf? d label = none ↔ ¬ ((0 ≤ label.toInt ∧ label.toInt < d) ∨ label.toInt = -1) := by
  have hignored : label = ignoredLabel ↔ label.toInt = -1 := Int32.toInt_inj.symm
  unfold markOf?
  split
  next h => simp [hignored.mp h]
  next h => rw [Option.map_eq_none_iff, classOf?_eq_none_iff, or_iff_left (mt hignored.mpr h)]

theorem isSome_classOf? {d : Nat} {label : Int32} (h : 0 ≤ label.toInt ∧ label.toInt < d) :
    (classOf? d label).isSome = true := by
  rwa [Option.isSome_iff_ne_none, ne_eq, classOf?_eq_none_iff, not_not]

theorem isSome_markOf? {d : Nat} {label : Int32} (h : -1 ≤ label.toInt ∧ label.toInt < d) :
    (markOf? d label).isSome = true := by
  rw [Option.isSome_iff_ne_none, ne_eq, markOf?_eq_none_iff, not_not]
  omega

theorem readLabels_of_forall {β : Type} {d : Nat} {read : Int32 → Option β} {labels : Tensor Int32}
    (h : ∀ k, read (labels.entries.get k) ≠ none) :
    ∃ readings, readLabels d read labels = .ok readings := by
  obtain ⟨readings, hread, -⟩ | ⟨k, hk, -⟩ := readLabels_cases d read labels
  · exact ⟨readings, hread⟩
  · exact absurd hk (h k)

theorem exists_readings {β : Type} {d : Nat} {read : Int32 → Option β} {shape : Shape}
    {labels : Vector Int32 (Shape.size shape)} (h : ∀ label ∈ labels, (read label).isSome = true) :
    ∃ readings, readLabels d read ⟨shape, labels⟩ = .ok readings :=
  readLabels_of_forall fun k => Option.isSome_iff_ne_none.mp (h _ (Vector.getElem_mem k.isLt))

theorem toInt_eq_iff_class {d : Nat} {labels : Tensor Int32} {classes : Vector (Fin d) labels.size}
    (hread : readLabels d (classOf? d) labels = .ok classes) (k : Fin labels.size) (c : Fin d) :
    (labels.entries.get k).toInt = (c : Nat) ↔ c = classes.get k := by
  rw [← classOf?_eq_some_iff, read_get hread, Option.some_inj, eq_comm]

theorem toInt_eq_iff_mark {d : Nat} {labels : Tensor Int32}
    {marks : Vector (Option (Fin d)) labels.size}
    (hread : readLabels d (markOf? d) labels = .ok marks) (k : Fin labels.size) (c : Fin d) :
    (labels.entries.get k).toInt = (c : Nat) ↔ marks.get k = some c := by
  rw [← markOf?_eq_some_some_iff, read_get hread, Option.some_inj]

theorem eq_ignored_iff_mark {d : Nat} {labels : Tensor Int32}
    {marks : Vector (Option (Fin d)) labels.size}
    (hread : readLabels d (markOf? d) labels = .ok marks) (k : Fin labels.size) :
    labels.entries.get k = ignoredLabel ↔ marks.get k = none := by
  rw [← markOf?_eq_some_none_iff (d := d), read_get hread, Option.some_inj]

end CrossEntropy
