import CrossEntropy.Proofs.Archive.Entry
import CrossEntropy.Proofs.Archive.Lookup
import CrossEntropy.Proofs.Archive.Zip

/-!
# Dumps that are read back

The inputs of an example are what is loaded from their dump. Each tensor is found by its name, so
that absent ones stay absent and present ones are not mixed up.

* `hasEntry_archived_iff`, `stored?_entries`: the entry for a tensor, among entries of plain names;
* `Dump.IsStorable`: inputs that the format covers;
* **`load_entries`**, **`loadFile_write?`**: inputs from the archive that is made of them, and from
  its bytes;
* **`loadFile_file?`**: both, and inputs from the file that a dump is made as.
-/

namespace CrossEntropy.Dump

/-! ## Entries of names -/

/-- Named contents as entries of an archive. -/
def archived (named : List (String × Bytes)) : Archive :=
  named.map fun (name, bytes) => (name ++ extension, bytes)

theorem hasEntry_archived_iff {named : List (String × Bytes)}
    (hplain : ∀ e ∈ named, IsPlain e.1) {tensor : String} {bytes : Bytes} :
    HasEntry (archived named) tensor bytes ↔ (tensor, bytes) ∈ named := by
  constructor
  · rintro ⟨_, hmem, rfl⟩
    obtain ⟨⟨name, _⟩, he, heq⟩ := List.mem_map.mp hmem
    cases heq
    rwa [tensorName_append, tensorName_of_isPlain (hplain _ he)]
  · intro h
    refine ⟨tensor ++ extension, List.mem_map_of_mem h, ?_⟩
    rw [tensorName_append, tensorName_of_isPlain (hplain _ h)]

/-! ## Inputs -/

/-- Inputs that the format covers: so is each tensor. -/
structure IsStorable (orders : InputOrders) (inputs : CaseInputs UInt32) : Prop where
  scores : Entry.IsStorable .float orders.scores inputs.scores
  labels : ∀ x ∈ inputs.labels, Entry.IsStorable .integer .rowMajor (x.map Int32.toUInt32)
  targets : ∀ x ∈ inputs.targets, Entry.IsStorable .float orders.targets x
  weights : ∀ x ∈ inputs.weights, Entry.IsStorable .float orders.weights x

/-- The tensors of inputs by name, as they are written. -/
def written (orders : InputOrders) (inputs : CaseInputs UInt32) : List (String × Bytes) :=
  ("scores", Entry.write .float orders.scores inputs.scores) ::
    ((inputs.labels.map fun x => ("labels",
        Entry.write .integer .rowMajor (x.map Int32.toUInt32))).toList ++
      (inputs.targets.map fun x => ("targets", Entry.write .float orders.targets x)).toList ++
      (inputs.weights.map fun x => ("weights", Entry.write .float orders.weights x)).toList)

theorem entries_eq (orders : InputOrders) (inputs : CaseInputs UInt32) :
    entries orders inputs = archived (written orders inputs) := by
  obtain ⟨scores, labels, targets, weights⟩ := inputs
  cases labels <;> cases targets <;> cases weights <;> rfl

theorem isPlain_written (orders : InputOrders) (inputs : CaseInputs UInt32) :
    ∀ e ∈ written orders inputs, IsPlain e.1 := by
  have hplain : ∀ name ∈ ["scores", "labels", "targets", "weights"], IsPlain name := by decide
  intro e he
  refine hplain e.1 ?_
  simp only [written, List.mem_cons, List.mem_append, Option.mem_toList,
    Option.map_eq_some_iff] at he
  rcases he with rfl | (⟨_, _, rfl⟩ | ⟨_, _, rfl⟩) | ⟨_, _, rfl⟩ <;> simp

/-- The entry for a tensor of inputs is what is written for the tensor, if anything is. -/
theorem stored?_entries {orders : InputOrders} {inputs : CaseInputs UInt32} {name : String}
    {content : Option Bytes}
    (h : ∀ bytes, (name, bytes) ∈ written orders inputs ↔ content = some bytes) :
    stored? (entries orders inputs) name = content := by
  have hentry (bytes : Bytes) :
      HasEntry (entries orders inputs) name bytes ↔ content = some bytes := by
    rw [entries_eq, hasEntry_archived_iff (isPlain_written orders inputs), h]
  refine Option.ext fun bytes => (stored?_eq_some_iff ?_).trans (hentry bytes)
  intro bytes bytes' hbytes hbytes'
  exact Option.some.inj (((hentry bytes).mp hbytes).symm.trans ((hentry bytes').mp hbytes'))

theorem stored?_scores (orders : InputOrders) (inputs : CaseInputs UInt32) :
    stored? (entries orders inputs) "scores" =
      some (Entry.write .float orders.scores inputs.scores) :=
  stored?_entries fun bytes => by simp [written, eq_comm]

theorem stored?_labels (orders : InputOrders) (inputs : CaseInputs UInt32) :
    stored? (entries orders inputs) "labels" =
      (inputs.labels.map (·.map Int32.toUInt32)).map (Entry.write .integer .rowMajor) :=
  stored?_entries fun bytes => by simp [written]

theorem stored?_targets (orders : InputOrders) (inputs : CaseInputs UInt32) :
    stored? (entries orders inputs) "targets" =
      inputs.targets.map (Entry.write .float orders.targets) :=
  stored?_entries fun bytes => by simp [written]

theorem stored?_weights (orders : InputOrders) (inputs : CaseInputs UInt32) :
    stored? (entries orders inputs) "weights" =
      inputs.weights.map (Entry.write .float orders.weights) :=
  stored?_entries fun bytes => by simp [written]

theorem tensor?_eq {archive : Archive} {name : String} {type : ElementType} {order : MemoryOrder}
    {x : Option (Tensor UInt32)} (hstored : stored? archive name = x.map (Entry.write type order))
    (h : ∀ y ∈ x, Entry.IsStorable type order y) : tensor? archive name type = .ok x := by
  cases x with
  | none =>
    rw [tensor?, hstored]
    rfl
  | some x =>
    rw [tensor?, hstored]
    have hread := Entry.read_write (h x rfl)
    change some <$> (Entry.read type (Entry.write type order x)).mapError _ = _
    rw [hread]
    rfl

theorem map_toInt32_toUInt32 (labels : Option (Tensor Int32)) :
    (labels.map (·.map Int32.toUInt32)).map (·.map UInt32.toInt32) = labels := by
  cases labels with
  | none => rfl
  | some x => simp [Tensor.map, Function.comp_def]

/-- **Inputs are loaded from the archive that is made of them.** -/
theorem load_entries {orders : InputOrders} {inputs : CaseInputs UInt32}
    (h : IsStorable orders inputs) : load (entries orders inputs) = .ok inputs := by
  have hscores : tensor .float (Entry.write .float orders.scores inputs.scores) =
      .ok inputs.scores := by
    rw [tensor, Entry.read_write h.scores]
    rfl
  have hlabels := tensor?_eq (stored?_labels orders inputs) (by simpa using h.labels)
  have htargets := tensor?_eq (stored?_targets orders inputs) h.targets
  have hweights := tensor?_eq (stored?_weights orders inputs) h.weights
  simp only [load, stored?_scores, hscores, hlabels, htargets, hweights, bind, Except.bind, pure,
    Except.pure, map_toInt32_toUInt32]

/-! ## Files -/

/-- **Inputs are loaded from the bytes of their archive**, whatever file they are in. -/
theorem loadFile_write? {orders : InputOrders} {inputs : CaseInputs UInt32} {bytes : Bytes}
    (h : IsStorable orders inputs) (hwrite : Zip.write? (entries orders inputs) = some bytes) :
    loadFile bytes = .ok inputs := by
  rw [loadFile, Zip.read?_write? hwrite]
  exact load_entries h

theorem file?_eq_some_iff {orders : InputOrders} {case timestamp name : String} {number : Nat}
    {inputs : CaseInputs UInt32} {bytes : Bytes} :
    file? orders case number timestamp inputs = some (name, bytes) ↔
      name = fileName case number timestamp ∧ isFileName name = true ∧
        Zip.write? (entries orders inputs) = some bytes := by
  by_cases hname : isFileName (fileName case number timestamp) = true
  · cases hwrite : Zip.write? (entries orders inputs) with
    | none => simp [file?, hname, hwrite, guard]
    | some written =>
      simp only [file?, hname, hwrite, guard, if_true, Option.bind_eq_bind, Option.pure_def,
        Option.bind_some, Option.some_inj, Prod.mk.injEq]
      constructor
      · rintro ⟨rfl, rfl⟩
        exact ⟨rfl, hname, rfl⟩
      · rintro ⟨rfl, -, rfl⟩
        exact ⟨rfl, rfl⟩
  · refine ⟨fun h => ?_, ?_⟩
    · simp [file?, hname, guard] at h
    · rintro ⟨rfl, h, -⟩
      exact absurd h hname

/-- **Inputs are loaded from their dump**, whichever tensors are present, whatever their shapes,
orders and words: from the archive, from its bytes in any file, and from the file that a dump is
made as, whatever that is called. -/
theorem loadFile_file? {orders : InputOrders} {inputs : CaseInputs UInt32}
    (h : IsStorable orders inputs) :
    load (entries orders inputs) = .ok inputs ∧
      (∀ bytes, Zip.write? (entries orders inputs) = some bytes → loadFile bytes = .ok inputs) ∧
      ∀ case number timestamp name bytes,
        file? orders case number timestamp inputs = some (name, bytes) →
          loadFile bytes = .ok inputs := by
  refine ⟨load_entries h, fun bytes => loadFile_write? h, ?_⟩
  intro case number timestamp name bytes hfile
  obtain ⟨-, -, hwrite⟩ := file?_eq_some_iff.mp hfile
  exact loadFile_write? h hwrite

/-- Scores in column-major order with a NaN among them, labels, no targets, and a single weight: a
dump that can be made, though not for a case with a slash in its name. -/
theorem loadFile_file?_columnMajor :
    let orders : InputOrders := { scores := .columnMajor }
    let inputs : CaseInputs UInt32 :=
      ⟨⟨[2, 3], #v[0x7fc00001, 0, 0x3f800000, 0x80000000, 1, 2]⟩, some ⟨[2], #v[1, -1]⟩, none,
        some ⟨[], #v[0x3f000000]⟩⟩
    (file? orders "softmax" 3 "now" inputs).isSome = true ∧
      file? orders "soft/max" 3 "now" inputs = none ∧
      load (entries orders inputs) = .ok inputs ∧
      (∃ bytes, Zip.write? (entries orders inputs) = some bytes ∧ loadFile bytes = .ok inputs) ∧
      ∀ case number timestamp name bytes,
        file? orders case number timestamp inputs = some (name, bytes) →
          loadFile bytes = .ok inputs := by
  intro orders inputs
  have hname : isFileName "softmax-3-now.npz" = true := by
    simp only [isFileName, String.contains_char_eq]
    decide
  have hslash : isFileName "soft/max-3-now.npz" ≠ true := by
    simp only [isFileName, String.contains_char_eq]
    decide
  obtain ⟨bytes, hbytes⟩ := Option.isSome_iff_exists.mp
    (by decide +kernel : (Zip.write? (entries orders inputs)).isSome = true)
  have hstorable : IsStorable orders inputs := by
    constructor
    · exact ⟨⟨by decide, by decide⟩, by decide +kernel⟩
    · rintro _ ⟨⟩
      exact ⟨⟨by decide, by decide⟩, by decide +kernel⟩
    · rintro _ ⟨⟩
    · rintro _ ⟨⟩
      exact ⟨⟨by decide, by decide⟩, by decide +kernel⟩
  obtain ⟨hload, hloadFile, hfile⟩ := loadFile_file? hstorable
  refine ⟨Option.isSome_iff_exists.mpr
    ⟨(_, bytes), file?_eq_some_iff.mpr ⟨rfl, hname, hbytes⟩⟩, ?_, hload,
    ⟨bytes, hbytes, hloadFile bytes hbytes⟩, hfile⟩
  refine Option.eq_none_iff_forall_not_mem.mpr fun ⟨name, bytes⟩ hmem => ?_
  obtain ⟨rfl, hallowed, -⟩ := file?_eq_some_iff.mp hmem
  exact hslash hallowed

end CrossEntropy.Dump
