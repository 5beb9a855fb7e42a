import CrossEntropy.Proofs.Suite.Accounts

/-!
# What a run does not depend on

The inputs that a run checks come from its source alone. Neither verdicts nor tolerances nor what is
done with the inputs of failures has an influence on them, and the examples of some cases stay the
same whatever cases come after.

* `Report.SameVerdicts`: reports that differ at most in what inputs were kept as;
* `Keeper.KeepsNothing`, `keepsNothing_of_canHold`: no inputs are kept, as where no dump can be
  made;
* `inputsAlong`, `inputsAlong_eq`: the inputs that a run gives its examples;
* `runSuite_append`: a run of two lists of cases is one run after the other;
* **`runSuite_independent`**: all of this for two runs.
-/

namespace CrossEntropy

variable {σ S D κ κ' : Type} [Scalar S] [Scalar D] [Precision S D] {m m' : Type → Type} [Monad m]
  [Monad m'] {tolerances : Tolerances S D}

/-! ## Verdicts -/

/-- What a failure tells, but for what the inputs were kept as. -/
def CaseFailure.told (f : CaseFailure S D κ) : Case × Nat × CheckFailure S D :=
  (f.case, f.number, f.failure)

/-- Reports that differ at most in what inputs were kept as. -/
structure Report.SameVerdicts (report : Report S D κ) (report' : Report S D κ') : Prop where
  passed : report.passed = report'.passed
  failures : report.failures.map CaseFailure.told = report'.failures.map CaseFailure.told

/-- Inputs of failed examples are never kept. -/
def Keeper.KeepsNothing (keep : Keeper m S κ) : Prop :=
  ∀ case number inputs, SatisfiesM (· = none) (keep case number inputs)

/-- Where the directory of dumps cannot be made, no inputs are kept. -/
theorem keepsNothing_of_canHold {folder : Folder} {directory : String}
    (h : folder.canHold directory = false) (timestamp : String) :
    ((folder.storage timestamp).keeper (some directory)).KeepsNothing := by
  intro case number inputs
  simp [SatisfiesM_Id_eq, Storage.keeper, Folder.storage, h]

theorem CaseFailure.IsOf.told_eq {f : CaseFailure S D κ} {f' : CaseFailure S D κ'} {e : Example S}
    (h : f.IsOf tolerances e) (h' : f'.IsOf tolerances e) : f.told = f'.told := by
  have hfailure : f.failure = f'.failure := Except.error.inj (h.failure.symm.trans h'.failure)
  rw [told, told, h.case, h.number, hfailure, ← h'.case, ← h'.number]

theorem map_told_eq {failures : List (CaseFailure S D κ)} {failures' : List (CaseFailure S D κ')}
    {drawn : List (Example S)}
    (h : List.Forall₂ (fun f e => f.IsOf tolerances e) failures drawn)
    (h' : List.Forall₂ (fun f e => f.IsOf tolerances e) failures' drawn) :
    failures.map CaseFailure.told = failures'.map CaseFailure.told := by
  induction h generalizing failures' with
  | nil =>
    cases h'
    rfl
  | cons hf _ ih =>
    cases h' with
    | cons hf' hrest => rw [List.map_cons, List.map_cons, hf.told_eq hf', ih hrest]

theorem Report.IsOf.sameVerdicts {Kept : Option κ → Prop} {Kept' : Option κ' → Prop}
    {report : Report S D κ} {report' : Report S D κ'} {drawn : List (Example S)}
    (h : report.IsOf tolerances Kept drawn) (h' : report'.IsOf tolerances Kept' drawn) :
    report.SameVerdicts report' where
  passed := h.passed.trans h'.passed.symm
  failures := by
    rw [← Array.toList_inj, Array.toList_map, Array.toList_map]
    exact map_told_eq h.failures h'.failures

/-! ## Inputs along a run -/

section Along

variable [Source σ] [Sampled S]

/-- The inputs that a run gives its examples, read off the states that it passes through. -/
def inputsAlong (tolerances : Tolerances S D) (keep : Keeper m S κ) :
    List (Case × Nat) → σ × Report S D κ → m (List (CaseInputs S))
  | [], _ => return []
  | planned :: scheduled, state => do
    let (inputs, _) := (planned.1.generate : Draw σ (CaseInputs S)).run state.1
    let state ← runExample tolerances keep state planned
    return inputs :: (← inputsAlong tolerances keep scheduled state)

variable [LawfulMonad m]

theorem runExample_source {keep : Keeper m S κ} (source : σ) (report : Report S D κ)
    (planned : Case × Nat) :
    SatisfiesM (fun state => state.1 = (planned.1.draw source : CaseInputs S × σ).2)
      (runExample tolerances keep (source, report) planned) := by
  rw [runExample_eq]
  exact SatisfiesM.trivial.map fun _ => rfl

theorem inputsAlong_drawn {keep : Keeper m S κ} (scheduled : List (Case × Nat)) (source : σ)
    (report : Report S D κ) :
    SatisfiesM (· = (drawnExamples scheduled source).map (·.inputs))
      (inputsAlong tolerances keep scheduled (source, report)) := by
  induction scheduled generalizing source report with
  | nil => exact SatisfiesM.pure rfl
  | cons planned scheduled ih =>
    refine (runExample_source source report planned).bind ?_
    rintro ⟨source', report'⟩ rfl
    refine (ih _ report').bind ?_
    rintro _ rfl
    exact SatisfiesM.pure rfl

theorem inputsAlong_eq {keep : Keeper m S κ} (cases : List Case) (examples : Nat) (source : σ) :
    SatisfiesM (· = (places cases examples).map (inputsAt cases examples source))
      (inputsAlong tolerances keep (schedule cases examples)
        (source, (.empty : Report S D κ))) := by
  refine (inputsAlong_drawn _ source _).imp ?_
  rintro _ rfl
  rw [drawnExamples_schedule, List.map_map]
  rfl

end Along

/-! ## One run after the other -/

section Append

/-- The reports of two runs as one. -/
def Report.append (report report' : Report S D κ) : Report S D κ :=
  ⟨report.passed + report'.passed, report.failures ++ report'.failures⟩

variable [LawfulMonad m] {keep : Keeper m S κ}

theorem recordExample_append (report report' : Report S D κ) (e : Example S) :
    recordExample tolerances keep (report.append report') e =
      report.append <$> recordExample tolerances keep report' e := by
  unfold recordExample
  cases checkCase e.case e.inputs tolerances with
  | ok => simp [Report.append, Nat.add_assoc]
  | error failure => simp [Report.append]

theorem foldlM_recordExample_append (drawn : List (Example S)) (report report' : Report S D κ) :
    drawn.foldlM (recordExample tolerances keep) (report.append report') =
      report.append <$> drawn.foldlM (recordExample tolerances keep) report' := by
  induction drawn generalizing report' with
  | nil => simp
  | cons e drawn ih =>
    rw [List.foldlM_cons, List.foldlM_cons, recordExample_append, bind_map_left, map_bind]
    exact bind_congr ih

variable [Source σ] [Sampled S]

/-- A run of two lists of cases is one run after the other, from where the first leaves the
source. -/
theorem runSuite_append (cases cases' : List Case) (examples : Nat) (source : σ) :
    runSuite (cases ++ cases') examples tolerances keep source = do
      let report ← runSuite cases examples tolerances keep source
      let report' ← runSuite cases' examples tolerances keep
        (sourceAfter S (schedule cases examples) source)
      return report.append report' := by
  have hschedule : schedule (cases ++ cases') examples =
      schedule cases examples ++ schedule cases' examples := List.flatMap_append
  have hempty (report : Report S D κ) : report = report.append .empty := by
    simp [Report.append, Report.empty]
  simp only [runSuite_eq, hschedule, drawnExamples_append, List.foldlM_append]
  refine bind_congr fun report => ?_
  conv_lhs => rw [hempty report, foldlM_recordExample_append]
  exact map_eq_pure_bind ..

end Append

/-! ## Two runs -/

variable [Source σ] [Sampled S] [LawfulMonad m] [LawfulMonad m']

/-- **Neither dumps nor verdicts influence what a run checks.** Two runs that differ in what they do
with the inputs of failures have the same verdicts, and nothing is reported as kept where nothing
can be. Their examples have the same inputs even if tolerances differ as well. A run of further
cases adds to the report of the first ones: their examples take up the source where the inputs of
the first leave it. -/
theorem runSuite_independent (keep : Keeper m S κ) (keep' : Keeper m' S κ')
    (tolerances tolerances' : Tolerances S D) (cases cases' : List Case) (examples : Nat)
    (source : σ) :
    SatisfiesM
        (fun report => SatisfiesM (fun report' => report.SameVerdicts report')
          (runSuite cases examples tolerances keep' source))
        (runSuite cases examples tolerances keep source) ∧
      (keep.KeepsNothing → SatisfiesM (fun report => ∀ f ∈ report.failures, f.kept = none)
        (runSuite cases examples tolerances keep source)) ∧
      (∃ inputs : List (CaseInputs S),
        SatisfiesM (· = inputs) (inputsAlong tolerances keep (schedule cases examples)
          (source, .empty)) ∧
        SatisfiesM (· = inputs) (inputsAlong tolerances' keep' (schedule cases examples)
          (source, .empty))) ∧
      runSuite (cases ++ cases') examples tolerances keep source = do
        let report ← runSuite cases examples tolerances keep source
        let report' ← runSuite cases' examples tolerances keep
          (sourceAfter S (schedule cases examples) source)
        return ⟨report.passed + report'.passed, report.failures ++ report'.failures⟩ := by
  refine ⟨?_, fun hnothing => ?_, ⟨_, inputsAlong_eq cases examples source,
    inputsAlong_eq cases examples source⟩, runSuite_append cases cases' examples source⟩
  · refine (runSuite_isOf (fun _ _ _ => SatisfiesM.trivial) cases examples source).imp ?_
    intro report hreport
    refine (runSuite_isOf (fun _ _ _ => SatisfiesM.trivial) cases examples source).imp ?_
    exact fun hreport' => hreport.sameVerdicts hreport'
  · exact (runSuite_isOf hnothing cases examples source).imp Report.IsOf.kept

/-- A run whose dumps cannot be made, since there is a file in the place of their directory, and one
that numbers its dumps. -/
theorem runSuite_independent_unusable :
    let cases : List Case := [.softmaxAxis 6, .spatialSoftmaxWithLoss, .softmaxAxis 6]
    let storage := (Folder.ofFiles [("dumps", [])]).storage "20240229T235959.999"
    let keep : Keeper Id Float32 String := storage.keeper (some "dumps/failed")
    let numbered : Keeper (StateM Nat) Float32 Nat :=
      fun _ _ _ => modifyGet fun next => (some next, next + 1)
    let tolerances : Tolerances Float32 Float := .standard
    let source := KeyStream.ofSeed 7
    keep.KeepsNothing ∧
      SatisfiesM (fun report => ∀ f ∈ report.failures, f.kept = none)
        (runSuite cases 3 tolerances keep source) ∧
      SatisfiesM
        (fun report => SatisfiesM (fun report' => report.SameVerdicts report')
          (runSuite cases 3 tolerances numbered source))
        (runSuite cases 3 tolerances keep source) := by
  intro cases storage keep numbered tolerances source
  have hclosed : (Folder.ofFiles [("dumps", [])]).canHold "dumps/failed" = false := by
    decide +kernel
  have hnothing : keep.KeepsNothing := keepsNothing_of_canHold hclosed _
  obtain ⟨hverdicts, hkept, -⟩ :=
    runSuite_independent keep numbered tolerances tolerances cases [] 3 source
  exact ⟨hnothing, hkept hnothing, hverdicts⟩

end CrossEntropy
