import CrossEntropy.Archive.Folder
import CrossEntropy.Proofs.Suite.Examples

/-!
# What a report accounts for

A report of a run counts the examples that pass and tells of those that fail, each of them once and
in order. This is so whatever is done with the inputs of failures, as long as it comes to an end.

* `Report.IsOf`: reports of given examples;
* `recordExample_isOf`, `runSuite_isOf`: one step of a run, and a run;
* `Report.Accounts`: what a report says of the places of a run;
* **`runSuite_accounts`**: a run accounts for every place exactly once.
-/

namespace CrossEntropy

variable {S D κ : Type} [Scalar S] [Scalar D] [Precision S D] {tolerances : Tolerances S D}
  {Kept : Option κ → Prop} {report : Report S D κ}

/-! ## Reports of examples -/

/-- Whether an example passes the checks of its case. -/
def Example.passes (tolerances : Tolerances S D) (e : Example S) : Bool :=
  (checkCase e.case e.inputs tolerances).isOk

theorem passes_iff {e : Example S} :
    e.passes tolerances = true ↔ checkCase e.case e.inputs tolerances = .ok () := by
  unfold Example.passes
  cases checkCase e.case e.inputs tolerances with
  | ok => exact iff_of_true rfl rfl
  | error failure => exact iff_of_false Bool.false_ne_true fun h => nomatch h

theorem not_passes_iff {e : Example S} :
    (!e.passes tolerances) = true ↔
      ∃ failure, checkCase e.case e.inputs tolerances = .error failure := by
  unfold Example.passes
  cases checkCase e.case e.inputs tolerances with
  | ok => exact iff_of_false Bool.false_ne_true fun ⟨_, h⟩ => nomatch h
  | error failure => exact iff_of_true rfl ⟨failure, rfl⟩

/-- A failure is the one that checking an example ends with. -/
structure CaseFailure.IsOf (tolerances : Tolerances S D) (f : CaseFailure S D κ) (e : Example S) :
    Prop where
  case : f.case = e.case
  number : f.number = e.number
  failure : checkCase e.case e.inputs tolerances = .error f.failure

/-- A report counts those of the examples that pass, and has the failures of the others in order.
What it says their inputs were kept as satisfies `Kept`. -/
structure Report.IsOf (tolerances : Tolerances S D) (Kept : Option κ → Prop)
    (report : Report S D κ) (drawn : List (Example S)) : Prop where
  passed : report.passed = drawn.countP (·.passes tolerances)
  failures : List.Forall₂ (fun f e => f.IsOf tolerances e) report.failures.toList
    (drawn.filter (!·.passes tolerances))
  kept : ∀ f ∈ report.failures, Kept f.kept

theorem Report.IsOf.empty : (Report.empty : Report S D κ).IsOf tolerances Kept [] :=
  ⟨rfl, .nil, fun _ h => by simp [Report.empty] at h⟩

section Record

variable {σ : Type} [Source σ] [Sampled S] {m : Type → Type} [Monad m] [LawfulMonad m]
  {keep : Keeper m S κ}

omit [Sampled S] in
theorem recordExample_isOf
    (hkeep : ∀ case number inputs, SatisfiesM Kept (keep case number inputs))
    {drawn : List (Example S)} (hreport : report.IsOf tolerances Kept drawn) (e : Example S) :
    SatisfiesM (Report.IsOf tolerances Kept · (drawn ++ [e]))
      (recordExample tolerances keep report e) := by
  unfold recordExample
  split
  next hok =>
    have he : e.passes tolerances = true := passes_iff.mpr hok
    refine SatisfiesM.pure ⟨?_, ?_, hreport.kept⟩
    · simp [hreport.passed, he]
    · simpa [he] using hreport.failures
  next failure herror =>
    have he : e.passes tolerances = false := by
      simpa using not_passes_iff.mpr ⟨failure, herror⟩
    refine (hkeep e.case e.number e.inputs).bind fun kept hkept => SatisfiesM.pure ⟨?_, ?_, ?_⟩
    · simp [hreport.passed, he]
    · have hlast : List.Forall₂ (fun f e => f.IsOf tolerances e)
          [(⟨e.case, e.number, failure, kept⟩ : CaseFailure S D κ)] [e] :=
        .cons ⟨rfl, rfl, herror⟩ .nil
      simpa [he] using List.rel_append hreport.failures hlast
    · intro f hf
      rcases Array.mem_push.mp hf with hf | rfl
      · exact hreport.kept f hf
      · exact hkept

omit [Sampled S] in
theorem foldlM_recordExample_isOf
    (hkeep : ∀ case number inputs, SatisfiesM Kept (keep case number inputs))
    {drawn : List (Example S)} (hreport : report.IsOf tolerances Kept drawn)
    (rest : List (Example S)) :
    SatisfiesM (Report.IsOf tolerances Kept · (drawn ++ rest))
      (rest.foldlM (recordExample tolerances keep) report) := by
  induction rest generalizing drawn report with
  | nil => exact SatisfiesM.pure (by rwa [List.append_nil])
  | cons e rest ih =>
    rw [List.foldlM_cons]
    refine (recordExample_isOf hkeep hreport e).bind fun report' hreport' => ?_
    simpa using ih hreport'

theorem runSuite_isOf (hkeep : ∀ case number inputs, SatisfiesM Kept (keep case number inputs))
    (cases : List Case) (examples : Nat) (source : σ) :
    SatisfiesM
      (Report.IsOf tolerances Kept · (drawnExamples (schedule cases examples) source))
      (runSuite cases examples tolerances keep source) := by
  rw [runSuite_eq]
  exact foldlM_recordExample_isOf hkeep Report.IsOf.empty _

end Record

/-! ## Reports of runs -/

variable {σ : Type} [Source σ] [Sampled S] {cases : List Case} {examples : Nat} {source : σ}

/-- The number of examples of a run: of the large case no more than three. -/
def runLength (cases : List Case) (examples : Nat) : Nat :=
  (cases.map fun case =>
    if case = .largeSpatialSoftmaxWithLoss then min examples 3 else examples).sum

theorem length_schedule_eq (cases : List Case) (examples : Nat) :
    (schedule cases examples).length = runLength cases examples := by
  rw [length_schedule]
  refine congrArg List.sum (List.map_congr_left fun case _ => ?_)
  cases case <;> rfl

/-- A report accounts for the places of a run: all examples are counted, the places `failed` are
those whose example fails, and its failures are theirs, in order. -/
structure Report.Accounts (tolerances : Tolerances S D) (cases : List Case) (examples : Nat)
    (source : σ) (failed : List (Fin cases.length × Nat)) (report : Report S D κ) : Prop where
  total : report.passed + report.failures.size = runLength cases examples
  succeeded : report.succeeded = true ↔ report.passed = runLength cases examples
  sorted : failed.Pairwise (Prod.Lex (· < ·) (· < ·))
  mem_failed : ∀ p e, (p, e) ∈ failed ↔ e < exampleCount (cases.get p) examples ∧
    ∃ failure, checkCase (cases.get p) (inputsAt cases examples source (p, e)) tolerances =
      .error failure
  failures : List.Forall₂
    (fun f place => f.case = cases.get place.1 ∧ f.number = place.2 ∧
      checkCase (cases.get place.1) (inputsAt cases examples source place) tolerances =
        .error f.failure) report.failures.toList failed

variable (tolerances cases examples source) in
/-- The places whose example fails. -/
def failedPlaces : List (Fin cases.length × Nat) :=
  (places cases examples).filter fun place =>
    !(exampleAt cases examples source place : Example S).passes tolerances

theorem mem_failedPlaces {p : Fin cases.length} {e : Nat} :
    (p, e) ∈ failedPlaces tolerances cases examples source ↔
      e < exampleCount (cases.get p) examples ∧
        ∃ failure, checkCase (cases.get p) (inputsAt cases examples source (p, e)) tolerances =
          .error failure := by
  rw [failedPlaces, List.mem_filter, mem_places, not_passes_iff]
  rfl

theorem Report.IsOf.accounts
    (h : report.IsOf tolerances Kept (drawnExamples (schedule cases examples) source)) :
    report.Accounts tolerances cases examples source
      (failedPlaces tolerances cases examples source) := by
  have hsize : report.failures.size =
      (drawnExamples (schedule cases examples) source).countP (!·.passes tolerances) := by
    rw [← Array.length_toList, h.failures.length_eq, List.countP_eq_length_filter]
  have htotal : report.passed + report.failures.size = runLength cases examples := by
    have hlength := List.length_eq_countP_add_countP (fun e : Example S => e.passes tolerances)
      (l := drawnExamples (schedule cases examples) source)
    simp only [length_drawnExamples, length_schedule_eq, Bool.not_eq_true, Bool.decide_eq_false]
      at hlength
    rw [h.passed, hsize, hlength]
  refine ⟨htotal, ?_, (sorted_places cases examples).filter _, fun p e => mem_failedPlaces, ?_⟩
  · rw [Report.succeeded, Array.isEmpty_iff_size_eq_zero]
    omega
  · have hfailures := h.failures
    rw [drawnExamples_schedule, List.filter_map, List.forall₂_map_right_iff] at hfailures
    exact hfailures.imp fun f place hf => ⟨hf.case, hf.number, hf.failure⟩

variable {m : Type → Type} [Monad m] [LawfulMonad m] (tolerances) (keep : Keeper m S κ)
  (cases examples source)

/-- **A run accounts for every example exactly once**: passes and failures add up to the number of
examples, the failures are those of the places at which the inputs from the source fail, in the
order of the places, and a run has succeeded exactly if all its examples have passed. -/
theorem runSuite_accounts :
    ∃ failed, SatisfiesM (Report.Accounts tolerances cases examples source failed)
      (runSuite cases examples tolerances keep source) := by
  have hkeep (case : Case) (number : Nat) (inputs : CaseInputs S) :
      SatisfiesM (fun _ => True) (keep case number inputs) := SatisfiesM.trivial
  exact ⟨_, (runSuite_isOf hkeep cases examples source).imp Report.IsOf.accounts⟩

/-- A run with a case listed twice and the large one in between, which dumps failures. -/
theorem runSuite_accounts_repeated :
    let cases : List Case :=
      [.softmaxAxis 6, .largeSpatialSoftmaxWithLoss, .softmaxAxis 6]
    let storage := (Folder.ofFiles []).storage "20240229T235959.999"
    let source := KeyStream.ofSeed 3
    ∃ failed, Report.Accounts .standard cases 5 source failed
      (runSuite (m := Id) cases 5 .standard (storage.keeper (some "dumps")) source) := by
  intro cases storage source
  obtain ⟨failed, h⟩ :=
    runSuite_accounts (m := Id) .standard cases 5 source (storage.keeper (some "dumps"))
  exact ⟨failed, SatisfiesM_Id_eq.mp h⟩

end CrossEntropy
