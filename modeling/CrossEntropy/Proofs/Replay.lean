import CrossEntropy.Proofs.Archive.Dump
import CrossEntropy.Proofs.Archive.FileName
import CrossEntropy.Archive.Folder

/-!
# Dumps that are replayed

A dumped example is checked again by the case in its file name, on the inputs in its archive. The
verdict is the one of the example itself.

* `Storage.Holds`, `Folder.storage_holds`: a file that lies in a storage;
* `replayedCase?_join`: the case of a dump's path;
* `Tells`, `tells_verdictAnswer`, `tells_loadedAnswer`: statuses tell of success;
* `replayFile_eq_bind`, `replayFile_eq`: the answer for a file, and for one of inputs;
* **`replayFile_dump`**: a dump is replayed with the verdict on its inputs.
-/

namespace CrossEntropy

variable {m : Type → Type} [Monad m]

/-- A file with these bytes lies at a path. -/
def Storage.Holds (storage : Storage m) (path : String) (bytes : Bytes) : Prop :=
  storage.load path = pure (Dump.loadFile bytes)

namespace Folder

theorem walk_eq {folder : Folder} {place rest : List (List Char)} {bytes : Bytes}
    (hmem : (place ++ rest, bytes) ∈ folder.files) (hdots : ['.', '.'] ∉ rest) :
    folder.walk place rest = some (place ++ rest) := by
  induction rest generalizing place with
  | nil => rw [walk, List.append_nil]
  | cons component rest ih =>
    rw [List.mem_cons, not_or] at hdots
    have hdirectory : folder.isDirectory place = true := by
      rw [isDirectory, Bool.or_eq_true, List.any_eq_true]
      exact .inr ⟨_, hmem, by simp⟩
    have hrest : folder.walk (place ++ [component]) rest = some (place ++ [component] ++ rest) :=
      ih (by simpa using hmem) hdots.2
    simp only [walk, hdirectory, Bool.not_true, Bool.false_eq_true, if_false, hrest,
      if_pos (Ne.symm hdots.1), List.append_assoc, List.singleton_append]

theorem storage_holds {path : String} (hrelative : path.toList.head? ≠ some '/')
    (hfile : namesDirectory path.toList = false)
    (hdots : ['.', '.'] ∉ Path.components path.toList) (bytes : Bytes) (timestamp : String) :
    ((ofFiles [(path, bytes)]).storage timestamp).Holds path bytes := by
  have hmem : ([] ++ Path.components path.toList, bytes) ∈ (ofFiles [(path, bytes)]).files :=
    List.mem_cons_self
  have hwalk : (ofFiles [(path, bytes)]).walk [] (Path.components path.toList) =
      some (Path.components path.toList) := walk_eq hmem hdots
  have hfound : (ofFiles [(path, bytes)]).file? (Path.components path.toList) = some bytes := by
    simp [ofFiles, file?]
  have hread : (ofFiles [(path, bytes)]).read? path = some bytes := by
    simp [read?, hfile, hrelative, hwalk, hfound]
  simp only [Storage.Holds, storage, hread]
  rfl

end Folder

theorem replayedCase?_join {case : Case} {timestamp : String} {number : Nat}
    (hfile : Dump.isFileName (Dump.fileName case.name number timestamp) = true)
    (directory : String) :
    replayedCase? (Path.join directory (Dump.fileName case.name number timestamp)) = some case := by
  rw [replayedCase?, Dump.caseName?_join case.hyphen_not_mem_name hfile]
  exact case.ofName?_name

/-- A status tells of success by 0 and of the lack of it by 1. -/
def Tells (status : UInt32) (success : Prop) : Prop :=
  status = 0 ∧ success ∨ status = 1 ∧ ¬ success

theorem tells_ite (success : Prop) [Decidable success] : Tells (if success then 0 else 1) success := by
  by_cases h : success <;> simp [Tells, h]

theorem Tells.eq_zero_iff {status : UInt32} {success : Prop} (h : Tells status success) :
    status = 0 ↔ success := by
  obtain ⟨rfl, h⟩ | ⟨rfl, h⟩ := h
  · exact iff_of_true rfl h
  · exact iff_of_false (by decide) h

/-- The answer to a verdict on a case. -/
def verdictAnswer (case : Case) : Checked Float32 Float Unit → Answer
  | .ok () => ⟨[case.name ++ " passes"], 0⟩
  | .error failure => ⟨[case.name ++ " fails: " ++ failure.message], 1⟩

theorem tells_verdictAnswer (case : Case) (verdict : Checked Float32 Float Unit) :
    Tells (verdictAnswer case verdict).status (verdict = .ok ()) := by
  cases verdict with
  | ok => exact .inl ⟨rfl, rfl⟩
  | error failure => exact .inr ⟨rfl, nofun⟩

theorem status_verdictAnswer (case : Case) (verdict : Checked Float32 Float Unit) :
    (verdictAnswer case verdict).status = 0 ↔ verdict = .ok () :=
  (tells_verdictAnswer case verdict).eq_zero_iff

/-- The answer to what loading a file gives. -/
def loadedAnswer (case : Case) : Except LoadError (CaseInputs UInt32) → Answer
  | .error _ => ⟨[], 1⟩
  | .ok loaded => verdictAnswer case (replayVerdict case loaded)

/-- The status of a replay tells whether there are inputs in the file and they pass. -/
theorem tells_loadedAnswer (case : Case) (loaded : Except LoadError (CaseInputs UInt32)) :
    Tells (loadedAnswer case loaded).status
      (∃ inputs, loaded = .ok inputs ∧ replayVerdict case inputs = .ok ()) := by
  cases loaded with
  | error e => exact .inr ⟨rfl, by simp⟩
  | ok inputs =>
    simpa only [loadedAnswer, Except.ok.injEq, exists_eq_left'] using
      tells_verdictAnswer case (replayVerdict case inputs)

/-- A file whose name tells a case is loaded, and what that gives is answered. -/
theorem replayFile_eq_bind [LawfulMonad m] {storage : Storage m} {path : String} {case : Case}
    (hcase : replayedCase? path = some case) :
    replayFile storage path = do return loadedAnswer case (← storage.load path) := by
  unfold replayFile
  rw [hcase]
  refine bind_congr fun loaded => ?_
  cases loaded with
  | error e => rfl
  | ok loaded =>
    simp only [loadedAnswer]
    cases replayVerdict case loaded <;> rfl

theorem replayFile_eq [LawfulMonad m] {storage : Storage m} {path : String} {case : Case}
    {loaded : CaseInputs UInt32} (hcase : replayedCase? path = some case)
    (hload : storage.load path = pure (.ok loaded)) :
    replayFile storage path = pure (verdictAnswer case (replayVerdict case loaded)) := by
  rw [replayFile_eq_bind hcase, hload, pure_bind]
  rfl

/-- **A dump is replayed with the verdict on the inputs that were dumped**: its path tells the case,
its archive holds the inputs, and the replay succeeds exactly if their check does. -/
theorem replayFile_dump [LawfulMonad m] {storage : Storage m} {orders : InputOrders}
    {inputs : CaseInputs UInt32} {case : Case} {number : Nat}
    {timestamp directory name : String} {bytes : Bytes} (hinputs : Dump.IsStorable orders inputs)
    (hfile : Dump.file? orders case.name number timestamp inputs = some (name, bytes))
    (hholds : storage.Holds (Path.join directory name) bytes) :
    let path := Path.join directory name
    let verdict : Checked Float32 Float Unit :=
      checkCase case (inputs.map Float32.ofBits) .standard
    replayedCase? path = some case ∧
      (∃ loaded, storage.load path = pure (.ok loaded) ∧ replayVerdict case loaded = verdict) ∧
      ∃ answer, replayFile storage path = pure answer ∧
        (answer.status = 0 ↔ verdict = .ok ()) := by
  intro path verdict
  obtain ⟨rfl, hname, hwrite⟩ := Dump.file?_eq_some_iff.mp hfile
  have hcase : replayedCase? path = some case := replayedCase?_join hname directory
  have hload : storage.load path = pure (.ok inputs) := by
    rw [hholds, Dump.loadFile_write? hinputs hwrite]
  exact ⟨hcase, ⟨inputs, hload, rfl⟩, _, replayFile_eq hcase hload, status_verdictAnswer case _⟩

/-- Scores in column-major order with labels, dumped for an axis that they do not have into a
directory with hyphens and dots in its name. -/
theorem replayFile_dump_axis :
    let case := Case.softmaxAxis 18446744073709551615
    let orders : InputOrders := { scores := .columnMajor }
    let inputs : CaseInputs UInt32 :=
      ⟨⟨[2, 3], #v[0x7fc00001, 0, 0x3f800000, 0x80000000, 1, 2]⟩, some ⟨[2], #v[1, -1]⟩, none, none⟩
    let name := "softmax_axis_18446744073709551615-3-20240229T235959.999.npz"
    let path := Path.join "run-1.d" name
    let verdict : Checked Float32 Float Unit :=
      checkCase case (inputs.map Float32.ofBits) .standard
    ∃ bytes, Dump.file? orders case.name 3 "20240229T235959.999" inputs = some (name, bytes) ∧
      let storage := (Folder.ofFiles [(path, bytes)]).storage ""
      replayedCase? path = some case ∧
        (∃ loaded, storage.load path = pure (.ok loaded) ∧ replayVerdict case loaded = verdict) ∧
        ∃ answer, replayFile storage path = pure answer ∧
          (answer.status = 0 ↔ verdict = .ok ()) := by
  intro case orders inputs name path verdict
  have hname : Dump.isFileName name = true := by
    simp only [name, Dump.isFileName, String.contains_char_eq]
    decide +kernel
  have hinputs : Dump.IsStorable orders inputs := by
    constructor
    · exact ⟨⟨by decide, by decide⟩, by decide +kernel⟩
    · rintro _ ⟨⟩
      exact ⟨⟨by decide, by decide⟩, by decide +kernel⟩
    · rintro _ ⟨⟩
    · rintro _ ⟨⟩
  obtain ⟨bytes, hbytes⟩ := Option.isSome_iff_exists.mp
    (by decide +kernel : (Zip.write? (Dump.entries orders inputs)).isSome = true)
  have hfile : Dump.file? orders case.name 3 "20240229T235959.999" inputs = some (name, bytes) :=
    Dump.file?_eq_some_iff.mpr ⟨by decide +kernel, hname, hbytes⟩
  have hholds : ((Folder.ofFiles [(path, bytes)]).storage "").Holds path bytes :=
    Folder.storage_holds (by decide +kernel) (by decide +kernel) (by decide +kernel) bytes ""
  exact ⟨bytes, hfile, replayFile_dump hinputs hfile hholds⟩

end CrossEntropy
