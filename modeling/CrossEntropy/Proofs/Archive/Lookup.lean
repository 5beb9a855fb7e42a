import Mathlib
import CrossEntropy.Archive.Dump

/-!
# Entries by name

The entry for a tensor may be called like the tensor, or have extensions behind that. An archive is
searched for the first name that is the tensor's but for extensions, and then read by that name. If
there is one content for the tensor in the archive, this is what is found, wherever it is.

* `IsPlain`: names without the extension of entries;
* `Trimmed`, `tensorName_eq_iff`: names without any of the extensions at their end;
* `tensorNames`, `HasEntry`: the tensors an archive is for, and the contents for each of them;
* `stored?_eq_none_iff`, **`stored?_eq_some_iff`**: what is found for a tensor.
-/

namespace CrossEntropy.Dump

/-! ## Names -/

/-- A name that does not end in the extension. -/
def IsPlain (name : String) : Prop := ¬ extension.toList <:+ name.toList

instance (name : String) : Decidable (IsPlain name) :=
  inferInstanceAs (Decidable (¬ extension.toList <:+ name.toList))

/-- A name is that of a tensor, but for extensions at its end. -/
inductive Trimmed : String → String → Prop
  | plain {name : String} (h : IsPlain name) : Trimmed name name
  | extended {name tensor : String} (h : Trimmed name tensor) : Trimmed (name ++ extension) tensor

theorem reverse_append_extension (name : String) :
    (name ++ extension).toList.reverse = 'y' :: 'p' :: 'n' :: '.' :: name.toList.reverse := by
  rw [String.toList_append, List.reverse_append]
  rfl

theorem isPlain_or_exists_append (name : String) :
    IsPlain name ∨ ∃ start, name = start ++ extension := by
  by_cases h : extension.toList <:+ name.toList
  · obtain ⟨start, hstart⟩ := h
    refine .inr ⟨.ofList start, ?_⟩
    rw [← String.toList_inj, String.toList_append, String.toList_ofList, hstart]
  · exact .inl h

theorem readName_append (name : String) : readName (name ++ extension) = name := by
  rw [readName, reverse_append_extension, dropExtension, List.reverse_reverse, String.ofList_toList]

theorem tensorName_append (name : String) : tensorName (name ++ extension) = tensorName name := by
  rw [tensorName, reverse_append_extension, dropExtensions]
  rfl

theorem extension_suffix {name : String} {rest : List Char}
    (h : name.toList.reverse = 'y' :: 'p' :: 'n' :: '.' :: rest) :
    extension.toList <:+ name.toList := by
  refine ⟨rest.reverse, ?_⟩
  rw [← List.reverse_reverse name.toList, h]
  simp [extension]

theorem readName_of_isPlain {name : String} (h : IsPlain name) : readName name = name := by
  unfold readName dropExtension
  split
  next rest hrest => exact absurd (extension_suffix hrest) h
  next => rw [List.reverse_reverse, String.ofList_toList]

theorem tensorName_of_isPlain {name : String} (h : IsPlain name) : tensorName name = name := by
  unfold tensorName dropExtensions
  split
  next rest hrest => exact absurd (extension_suffix hrest) h
  next => rw [List.reverse_reverse, String.ofList_toList]

theorem eq_readName_or_append (name : String) :
    name = readName name ∨ name = readName name ++ extension := by
  obtain h | ⟨start, rfl⟩ := isPlain_or_exists_append name
  · exact .inl (readName_of_isPlain h).symm
  · exact .inr (by rw [readName_append])

theorem tensorName_readName (name : String) : tensorName (readName name) = tensorName name := by
  obtain h | h := eq_readName_or_append name
  · rw [← h]
  · conv_rhs => rw [h, tensorName_append]

theorem trimmed_tensorName (name : String) : Trimmed name (tensorName name) := by
  induction hlength : name.length using Nat.strong_induction_on generalizing name with
  | _ length ih =>
    obtain h | ⟨start, rfl⟩ := isPlain_or_exists_append name
    · rw [tensorName_of_isPlain h]
      exact .plain h
    · rw [tensorName_append]
      refine .extended (ih start.length ?_ start rfl)
      rw [← hlength, String.length_append]
      exact Nat.lt_add_of_pos_right (by decide)

/-- **The name of the tensor is what extensions leave of a name.** -/
theorem tensorName_eq_iff {name tensor : String} : tensorName name = tensor ↔ Trimmed name tensor := by
  constructor
  · rintro rfl
    exact trimmed_tensorName name
  · intro h
    induction h with
    | plain h => exact tensorName_of_isPlain h
    | extended _ ih => rw [tensorName_append, ih]

/-! ## Entries -/

/-- The tensors that the entries are for. -/
def tensorNames (archive : Archive) : List String := archive.map (tensorName ·.1)

/-- There is an entry with this content for a tensor. -/
def HasEntry (archive : Archive) (tensor : String) (bytes : Bytes) : Prop :=
  ∃ name, (name, bytes) ∈ archive ∧ tensorName name = tensor

variable {archive : Archive} {tensor : String} {bytes : Bytes}

theorem mem_tensorNames_iff : tensor ∈ tensorNames archive ↔ ∃ bytes, HasEntry archive tensor bytes := by
  simp only [tensorNames, HasEntry, List.mem_map, Prod.exists]
  exact exists_comm

theorem HasEntry.unique (hnames : (tensorNames archive).Nodup) {bytes' : Bytes}
    (h : HasEntry archive tensor bytes) (h' : HasEntry archive tensor bytes') : bytes = bytes' := by
  obtain ⟨name, hmem, rfl⟩ := h
  obtain ⟨name', hmem', hname⟩ := h'
  exact (Prod.ext_iff.mp (List.inj_on_of_nodup_map hnames hmem hmem' hname.symm)).2

theorem hasEntry_of_byName? {name : String} (h : byName? archive name = some bytes) :
    HasEntry archive (tensorName name) bytes := by
  have hfound {other : String} (hother : tensorName other = tensorName name)
      (h : (archive.reverse.find? (·.1 = other)).map (·.2) = some bytes) :
      HasEntry archive (tensorName name) bytes := by
    obtain ⟨⟨found, _⟩, hfind, rfl⟩ := Option.map_eq_some_iff.mp h
    have hname : found = other := by simpa using List.find?_some hfind
    exact ⟨found, List.mem_reverse.mp (List.mem_of_find?_eq_some hfind), hname ▸ hother⟩
  obtain h | ⟨-, h⟩ := Option.or_eq_some_iff.mp h
  · exact hfound rfl h
  · exact hfound (tensorName_append name) h

theorem exists_byName?_readName {name : String} (h : (name, bytes) ∈ archive) :
    ∃ found, byName? archive (readName name) = some found := by
  have hfind : ((archive.reverse.find? (·.1 = name)).map (·.2)).isSome = true := by
    rw [Option.isSome_map, List.find?_isSome]
    exact ⟨_, List.mem_reverse.mpr h, by simp⟩
  rw [← Option.isSome_iff_exists, byName?, Option.isSome_or, Bool.or_eq_true]
  obtain hname | hname := eq_readName_or_append name
  · exact .inl (hname ▸ hfind)
  · exact .inr (hname ▸ hfind)

theorem hasEntry_of_stored? (h : stored? archive tensor = some bytes) :
    HasEntry archive tensor bytes := by
  obtain ⟨name, hfind, hbytes⟩ := Option.bind_eq_some_iff.mp h
  have hname : tensorName name = tensor := by simpa using List.find?_some hfind
  exact hname ▸ hasEntry_of_byName? hbytes

/-- Something is found if there is an entry, though with several entries it may be another one. -/
theorem exists_stored? (h : HasEntry archive tensor bytes) :
    ∃ found, stored? archive tensor = some found := by
  obtain ⟨name, hmem, hname⟩ := h
  have hlisted : ((archive.map (readName ·.1)).find? (tensorName · = tensor)).isSome = true := by
    rw [List.find?_isSome]
    exact ⟨_, List.mem_map_of_mem hmem, by simpa [tensorName_readName] using hname⟩
  obtain ⟨first, hfirst⟩ := Option.isSome_iff_exists.mp hlisted
  obtain ⟨⟨other, _⟩, hother, rfl⟩ := List.mem_map.mp (List.mem_of_find?_eq_some hfirst)
  rw [stored?, hfirst]
  exact exists_byName?_readName hother

theorem stored?_eq_none_iff : stored? archive tensor = none ↔ tensor ∉ tensorNames archive := by
  rw [mem_tensorNames_iff]
  constructor
  · rintro h ⟨bytes, hentry⟩
    obtain ⟨found, hfound⟩ := exists_stored? hentry
    cases h.symm.trans hfound
  · intro h
    by_contra hne
    obtain ⟨found, hfound⟩ := Option.ne_none_iff_exists'.mp hne
    exact h ⟨found, hasEntry_of_stored? hfound⟩

/-- **What is found for a tensor is the one content that there is for it.** -/
theorem stored?_eq_some_iff
    (hone : ∀ bytes bytes', HasEntry archive tensor bytes → HasEntry archive tensor bytes' →
      bytes = bytes') :
    stored? archive tensor = some bytes ↔ HasEntry archive tensor bytes := by
  refine ⟨hasEntry_of_stored?, fun h => ?_⟩
  obtain ⟨found, hfound⟩ := exists_stored? h
  rw [hfound, hone found bytes (hasEntry_of_stored? hfound) h]

end CrossEntropy.Dump
