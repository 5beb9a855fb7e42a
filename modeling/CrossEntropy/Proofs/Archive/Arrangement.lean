import CrossEntropy.Proofs.Archive.Lookup
import CrossEntropy.Proofs.Outcome

/-!
# Archives in another arrangement

Inputs are loaded from the entries for their four tensors. The order of an archive makes no
difference, and neither does what else there is in it.

* `IsForeign`, `Rearranged`: other entries, and archives that differ in these and in order;
* `Rearranged.stored?_eq`: what is found for the tensors of inputs stays the same;
* `load_eq_error_iff`, `eq_none_iff_of_load`: when there are no inputs, and no optional tensors;
* **`load_arrangement`**: loading depends on the entries for the four tensors, and how.
-/

namespace CrossEntropy.Dump

/-! ## Arrangements -/

/-- The tensors of inputs, and what their elements are. -/
def inputTypes : List (String × ElementType) :=
  [("scores", .float), ("labels", .integer), ("targets", .float), ("weights", .float)]

/-- A name stands for none of the tensors of inputs. -/
def IsForeign (name : String) : Prop := tensorName name ∉ inputTypes.map (·.1)

instance (name : String) : Decidable (IsForeign name) :=
  inferInstanceAs (Decidable (tensorName name ∉ inputTypes.map (·.1)))

/-- An archive is arranged in another way: its entries are permuted, or foreign ones are put in or
taken out, whatever their contents. -/
inductive Rearranged : Archive → Archive → Prop
  | perm {archive other : Archive} (h : archive.Perm other) : Rearranged archive other
  | insert (before after : Archive) (name : String) (bytes : Bytes) (hname : IsForeign name) :
      Rearranged (before ++ after) (before ++ (name, bytes) :: after)
  | remove (before after : Archive) (name : String) (bytes : Bytes) (hname : IsForeign name) :
      Rearranged (before ++ (name, bytes) :: after) (before ++ after)
  | trans {archive middle other : Archive} (h : Rearranged archive middle)
      (h' : Rearranged middle other) : Rearranged archive other

variable {archive other : Archive} {tensor : String} {bytes : Bytes}

theorem mem_insert_iff {before after : Archive} {name foreign : String} {bytes content : Bytes}
    (hname : ¬ IsForeign name) (hforeign : IsForeign foreign) :
    (name, bytes) ∈ before ++ (foreign, content) :: after ↔ (name, bytes) ∈ before ++ after := by
  have hne : name ≠ foreign := fun h => hname (h ▸ hforeign)
  simp [hne]

/-- The entries for the tensors of inputs are the same in every arrangement. -/
theorem Rearranged.mem_iff (h : Rearranged archive other) {name : String}
    (hname : ¬ IsForeign name) : (name, bytes) ∈ archive ↔ (name, bytes) ∈ other := by
  induction h with
  | perm h => exact h.mem_iff
  | insert _ _ _ _ hforeign => exact (mem_insert_iff hname hforeign).symm
  | remove _ _ _ _ hforeign => exact mem_insert_iff hname hforeign
  | trans _ _ ih ih' => exact ih.trans ih'

theorem Rearranged.hasEntry_iff (h : Rearranged archive other)
    (htensor : tensor ∈ inputTypes.map (·.1)) :
    HasEntry archive tensor bytes ↔ HasEntry other tensor bytes := by
  refine exists_congr fun name => and_congr_left ?_
  rintro rfl
  exact h.mem_iff (not_not_intro htensor)

theorem Rearranged.stored?_eq (hnames : (tensorNames archive).Nodup)
    (h : Rearranged archive other) (htensor : tensor ∈ inputTypes.map (·.1)) :
    stored? other tensor = stored? archive tensor := by
  have hentry (bytes : Bytes) : HasEntry archive tensor bytes ↔ HasEntry other tensor bytes :=
    h.hasEntry_iff htensor
  refine Option.ext fun bytes => ?_
  rw [stored?_eq_some_iff fun _ _ => HasEntry.unique hnames, hentry]
  refine stored?_eq_some_iff fun bytes bytes' hbytes hbytes' => ?_
  exact HasEntry.unique hnames ((hentry bytes).mpr hbytes) ((hentry bytes').mpr hbytes')

/-! ## Loading -/

theorem load_congr
    (h : ∀ tensor ∈ inputTypes.map (·.1), stored? other tensor = stored? archive tensor) :
    load other = load archive := by
  simp only [inputTypes, List.map_cons, List.map_nil, List.forall_mem_cons] at h
  obtain ⟨hscores, hlabels, htargets, hweights, -⟩ := h
  simp only [load, tensor?, hscores, hlabels, htargets, hweights]

/-- An entry that does not decode to its element type. -/
def IsBad (type : ElementType) (bytes : Bytes) : Prop := ∃ e, Entry.read type bytes = .error e

theorem tensor_eq_error_iff {type : ElementType} :
    (∃ e, Dump.tensor type bytes = .error e) ↔ IsBad type bytes := by
  unfold Dump.tensor IsBad
  cases Entry.read type bytes with
  | error e => exact iff_of_true ⟨_, rfl⟩ ⟨e, rfl⟩
  | ok x => exact iff_of_false (fun ⟨_, h⟩ => nomatch h) fun ⟨_, h⟩ => nomatch h

theorem tensor?_eq_error_iff {name : String} {type : ElementType} :
    (∃ e, tensor? archive name type = .error e) ↔
      ∃ bytes, stored? archive name = some bytes ∧ IsBad type bytes := by
  unfold tensor?
  cases stored? archive name with
  | none => simp
  | some bytes =>
    simp only [Option.some.injEq, exists_eq_left', ← tensor_eq_error_iff]
    cases Dump.tensor type bytes with
    | error e => exact iff_of_true ⟨_, rfl⟩ ⟨e, rfl⟩
    | ok x => exact iff_of_false (fun ⟨_, h⟩ => nomatch h) fun ⟨_, h⟩ => nomatch h

theorem eq_none_iff_of_tensor? {name : String} {type : ElementType} {x : Option (Tensor UInt32)}
    (h : tensor? archive name type = .ok x) : x = none ↔ stored? archive name = none := by
  unfold tensor? at h
  cases hstored : stored? archive name with
  | none =>
    rw [hstored] at h
    cases h
    exact iff_of_true rfl rfl
  | some bytes =>
    rw [hstored] at h
    cases hread : Dump.tensor type bytes with
    | error e =>
      simp only [hread] at h
      cases h
    | ok y =>
      simp only [hread] at h
      cases h
      exact iff_of_false (Option.some_ne_none y) (Option.some_ne_none bytes)

/-- There are no inputs without scores, or if one of their entries is bad. -/
theorem load_eq_error_iff :
    (∃ e, load archive = .error e) ↔ stored? archive "scores" = none ∨
      ∃ input ∈ inputTypes, ∃ bytes, stored? archive input.1 = some bytes ∧ IsBad input.2 bytes := by
  cases hscores : stored? archive "scores" with
  | none =>
    refine iff_of_true ⟨.noScores, ?_⟩ (.inl rfl)
    rw [load, hscores]
    rfl
  | some bytes =>
    have hsteps : (∃ e, load archive = .error e) ↔
        (∃ e, Dump.tensor .float bytes = .error e) ∨
          (∃ e, tensor? archive "labels" .integer = .error e) ∨
          (∃ e, tensor? archive "targets" .float = .error e) ∨
          (∃ e, tensor? archive "weights" .float = .error e) ∨ False := by
      rw [load, hscores]
      refine exists_bind_eq_error_iff fun scores _ => exists_bind_eq_error_iff fun labels _ =>
        exists_bind_eq_error_iff fun targets _ => exists_bind_eq_error_iff fun weights _ => ?_
      exact iff_of_false (fun ⟨_, h⟩ => nomatch h) id
    rw [hsteps, tensor_eq_error_iff, tensor?_eq_error_iff, tensor?_eq_error_iff,
      tensor?_eq_error_iff]
    simp [inputTypes, hscores]

theorem eq_none_iff_of_load {inputs : CaseInputs UInt32} (h : load archive = .ok inputs) :
    (inputs.labels = none ↔ stored? archive "labels" = none) ∧
      (inputs.targets = none ↔ stored? archive "targets" = none) ∧
      (inputs.weights = none ↔ stored? archive "weights" = none) := by
  unfold load at h
  split at h
  next bytes hscores =>
    obtain ⟨scores, -, h⟩ := bind_eq_ok_iff.mp h
    obtain ⟨labels, hlabels, h⟩ := bind_eq_ok_iff.mp h
    obtain ⟨targets, htargets, h⟩ := bind_eq_ok_iff.mp h
    obtain ⟨weights, hweights, h⟩ := bind_eq_ok_iff.mp h
    cases h
    rw [Option.map_eq_none_iff]
    exact ⟨eq_none_iff_of_tensor? hlabels, eq_none_iff_of_tensor? htargets,
      eq_none_iff_of_tensor? hweights⟩
  next => cases h

/-- **Loading depends only on the entries for the tensors of inputs**, if the names in the archive
are different once their extensions are taken off. It gives the same in every arrangement. It fails
exactly if there are no scores or if an entry for one of the tensors is bad, and an optional tensor
is absent from what it gives exactly if there is no entry for it. -/
theorem load_arrangement (hnames : (tensorNames archive).Nodup) :
    (∀ other, Rearranged archive other → load other = load archive) ∧
      ((∃ e, load archive = .error e) ↔ "scores" ∉ tensorNames archive ∨
        ∃ input ∈ inputTypes, ∃ bytes, HasEntry archive input.1 bytes ∧ IsBad input.2 bytes) ∧
      ∀ inputs, load archive = .ok inputs →
        (inputs.labels = none ↔ "labels" ∉ tensorNames archive) ∧
          (inputs.targets = none ↔ "targets" ∉ tensorNames archive) ∧
          (inputs.weights = none ↔ "weights" ∉ tensorNames archive) := by
  have hstored (tensor : String) (bytes : Bytes) :
      stored? archive tensor = some bytes ↔ HasEntry archive tensor bytes :=
    stored?_eq_some_iff fun _ _ => HasEntry.unique hnames
  refine ⟨fun other h => load_congr fun tensor => h.stored?_eq hnames, ?_, fun inputs h => ?_⟩
  · simp only [load_eq_error_iff, stored?_eq_none_iff, hstored]
  · simp only [← stored?_eq_none_iff]
    exact eq_none_iff_of_load h

/-- Scores without an extension, labels with two, and notes. They are turned around, the notes are
taken out, and an empty entry with the name of the weights but for a letter is put in. -/
theorem load_arrangement_notes :
    let labels := Entry.write .integer .rowMajor ⟨[2], #v[1, 0xffffffff]⟩
    let scores :=
      Entry.write .float .columnMajor ⟨[2, 2], #v[0x7fc00001, 0, 0x3f800000, 0x80000000]⟩
    let archive : Archive := [("notes.npy", [1, 2]), ("labels.npy.npy", labels), ("scores", scores)]
    let other : Archive := [("scores", scores), ("weight.npy", []), ("labels.npy.npy", labels)]
    (tensorNames archive).Nodup ∧ Rearranged archive other ∧
      ∃ inputs, load archive = .ok inputs ∧ load other = .ok inputs ∧ inputs.labels ≠ none ∧
        inputs.targets = none ∧ inputs.weights = none := by
  intro labels scores archive other
  have hnames : (tensorNames archive).Nodup := by decide +kernel
  have harranged : Rearranged archive other :=
    .trans (.remove [] _ "notes.npy" [1, 2] (by decide +kernel))
      (.trans (.perm (.swap ..))
        (.insert [("scores", scores)] _ "weight.npy" [] (by decide +kernel)))
  obtain ⟨hsame, -, habsent⟩ := load_arrangement hnames
  have hok : (load archive).isOk = true := by decide +kernel
  cases hload : load archive with
  | error e =>
    rw [hload] at hok
    cases hok
  | ok inputs =>
    obtain ⟨hlabels, htargets, hweights⟩ := habsent inputs hload
    refine ⟨hnames, harranged, inputs, rfl, (hsame other harranged).trans hload, ?_, ?_, ?_⟩
    · rw [ne_eq, hlabels]
      decide +kernel
    · rw [htargets]
      decide +kernel
    · rw [hweights]
      decide +kernel

end CrossEntropy.Dump
