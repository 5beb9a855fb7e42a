import Mathlib
import CrossEntropy.Suite.Run

/-!
# Examples of a run

What a run checks is settled by its schedule and its source alone: each example takes its inputs
from where the one before left the source. Checking and reporting them comes after.

* `Case.draw`, `sourceAfter`, `drawnExamples`: inputs, and the source, in the order of a schedule;
* `places`, `inputsAt`: the places of a run, and what the source gives at each of them;
* **`drawnExamples_schedule`**: the examples of a run are those of its places;
* `recordExample`, **`runSuite_eq`**: a run draws its examples, then records their verdicts.
-/

namespace CrossEntropy

/-! ## Drawing -/

/-- An example of a run. -/
structure Example (S : Type) where
  case : Case
  number : Nat
  inputs : CaseInputs S

section Drawing

variable {σ S : Type} [Source σ] [Scalar S] [Sampled S]

/-- Inputs of a case, and the source after them. -/
def Case.draw (case : Case) (source : σ) : CaseInputs S × σ :=
  (case.generate : Draw σ (CaseInputs S)).run source

/-- The source once the inputs of scheduled examples have been drawn from it. -/
def sourceAfter (S : Type) [Scalar S] [Sampled S] (scheduled : List (Case × Nat)) (source : σ) :
    σ :=
  scheduled.foldl (fun source planned => (planned.1.draw source : CaseInputs S × σ).2) source

/-- Scheduled examples with the inputs that they get from a source, one after the other. -/
def drawnExamples : List (Case × Nat) → σ → List (Example S)
  | [], _ => []
  | (case, number) :: scheduled, source =>
    ⟨case, number, (case.draw source).1⟩ ::
      drawnExamples scheduled (case.draw source : CaseInputs S × σ).2

theorem sourceAfter_append (scheduled scheduled' : List (Case × Nat)) (source : σ) :
    sourceAfter S (scheduled ++ scheduled') source =
      sourceAfter S scheduled' (sourceAfter S scheduled source) :=
  List.foldl_append

theorem drawnExamples_append (scheduled scheduled' : List (Case × Nat)) (source : σ) :
    (drawnExamples (scheduled ++ scheduled') source : List (Example S)) =
      drawnExamples scheduled source ++
        drawnExamples scheduled' (sourceAfter S scheduled source) := by
  induction scheduled generalizing source with
  | nil => rfl
  | cons planned scheduled ih =>
    show _ :: drawnExamples (scheduled ++ scheduled') _ = _ :: (drawnExamples scheduled _ ++ _)
    rw [ih]
    rfl

@[simp] theorem length_drawnExamples (scheduled : List (Case × Nat)) (source : σ) :
    (drawnExamples scheduled source : List (Example S)).length = scheduled.length := by
  induction scheduled generalizing source with
  | nil => rfl
  | cons planned scheduled ih => exact congrArg (· + 1) (ih _)

end Drawing

/-! ## Places -/

/-- The places of a run: a position in the list of cases and the number of an example of that
case. -/
def places (cases : List Case) (examples : Nat) : List (Fin cases.length × Nat) :=
  (List.finRange cases.length).flatMap fun p =>
    (List.range (exampleCount (cases.get p) examples)).map (p, ·)

theorem mem_places {cases : List Case} {examples : Nat} {p : Fin cases.length} {e : Nat} :
    (p, e) ∈ places cases examples ↔ e < exampleCount (cases.get p) examples := by
  simp [places]

theorem sorted_places (cases : List Case) (examples : Nat) :
    (places cases examples).Pairwise (Prod.Lex (· < ·) (· < ·)) := by
  refine List.pairwise_flatMap.mpr ⟨fun p _ => ?_, ?_⟩
  · rw [List.pairwise_map]
    exact List.pairwise_lt_range.imp fun h => Prod.Lex.right p h
  · refine (List.pairwise_lt_finRange _).imp fun h => ?_
    rintro _ hx _ hy
    obtain ⟨_, -, rfl⟩ := List.mem_map.mp hx
    obtain ⟨_, -, rfl⟩ := List.mem_map.mp hy
    exact Prod.Lex.left _ _ h

theorem places_cons (case : Case) (cases : List Case) (examples : Nat) :
    places (case :: cases) examples =
      (List.range (exampleCount case examples)).map (0, ·) ++
        (places cases examples).map fun place => (place.1.succ, place.2) := by
  simp [places, List.finRange_succ, List.flatMap_map, List.map_flatMap, Function.comp_def]

theorem length_schedule (cases : List Case) (examples : Nat) :
    (schedule cases examples).length = (cases.map (exampleCount · examples)).sum := by
  simp [schedule, List.length_flatMap]

section Places

variable {σ S : Type} [Source σ] [Scalar S] [Sampled S]

/-- The inputs that the source of a run gives at a place: after those of all earlier cases and of
the examples of this case with smaller numbers. -/
def inputsAt (cases : List Case) (examples : Nat) (source : σ) (place : Fin cases.length × Nat) :
    CaseInputs S :=
  let case := cases.get place.1
  let before := schedule (cases.take place.1) examples ++ (List.range place.2).map (case, ·)
  (case.draw (sourceAfter S before source)).1

/-- The example of a run at a place. -/
def exampleAt (cases : List Case) (examples : Nat) (source : σ) (place : Fin cases.length × Nat) :
    Example S :=
  ⟨cases.get place.1, place.2, inputsAt cases examples source place⟩

theorem drawnExamples_range (case : Case) (count : Nat) (source : σ) :
    (drawnExamples ((List.range count).map (case, ·)) source : List (Example S)) =
      (List.range count).map fun e =>
        ⟨case, e, (case.draw (sourceAfter S ((List.range e).map (case, ·)) source)).1⟩ := by
  induction count with
  | zero => rfl
  | succ count ih =>
    simp only [List.range_succ, List.map_append, drawnExamples_append, ih]
    rfl

/-- **The examples of a run are those of its places**, in order. -/
theorem drawnExamples_schedule (cases : List Case) (examples : Nat) (source : σ) :
    (drawnExamples (schedule cases examples) source : List (Example S)) =
      (places cases examples).map (exampleAt cases examples source) := by
  induction cases generalizing source with
  | nil => rfl
  | cons case cases ih =>
    have hschedule : schedule (case :: cases) examples =
        (List.range (exampleCount case examples)).map (case, ·) ++ schedule cases examples := rfl
    rw [hschedule, drawnExamples_append, drawnExamples_range, ih, places_cons, List.map_append,
      List.map_map, List.map_map]
    refine congrArg₂ (· ++ ·) rfl (List.map_congr_left fun place _ => ?_)
    simp [exampleAt, inputsAt, schedule, ← sourceAfter_append]

end Places

/-! ## Recording -/

section Recording

variable {σ S D κ : Type} [Source σ] [Scalar S] [Sampled S] [Scalar D] [Precision S D]
  {m : Type → Type} [Monad m] {tolerances : Tolerances S D} {keep : Keeper m S κ}

/-- The report that nothing has been added to. -/
def Report.empty : Report S D κ := ⟨0, #[]⟩

/-- Adds the verdict on an example to a report. -/
def recordExample (tolerances : Tolerances S D) (keep : Keeper m S κ) (report : Report S D κ)
    (e : Example S) : m (Report S D κ) :=
  match checkCase e.case e.inputs tolerances with
  | .ok () => pure { report with passed := report.passed + 1 }
  | .error failure => do
    let kept ← keep e.case e.number e.inputs
    return { report with failures := report.failures.push ⟨e.case, e.number, failure, kept⟩ }

variable [LawfulMonad m]

/-- One step of a run takes inputs from the source whatever becomes of them. -/
theorem runExample_eq (source : σ) (report : Report S D κ) (planned : Case × Nat) :
    runExample tolerances keep (source, report) planned =
      ((planned.1.draw source : CaseInputs S × σ).2, ·) <$>
        recordExample tolerances keep report
          ⟨planned.1, planned.2, (planned.1.draw source).1⟩ := by
  obtain ⟨case, number⟩ := planned
  show (match checkCase case (case.draw source).1 tolerances with
    | .ok () => _
    | .error failure => _) = _
  unfold recordExample
  cases checkCase case (case.draw source : CaseInputs S × σ).1 tolerances with
  | ok => exact (map_pure ..).symm
  | error failure =>
    simp only [map_bind, map_pure]
    rfl

theorem foldlM_runExample (scheduled : List (Case × Nat)) (source : σ) (report : Report S D κ) :
    scheduled.foldlM (runExample tolerances keep) (source, report) =
      (sourceAfter S scheduled source, ·) <$>
        (drawnExamples scheduled source).foldlM (recordExample tolerances keep) report := by
  induction scheduled generalizing source report with
  | nil => exact (map_pure ..).symm
  | cons planned scheduled ih =>
    rw [List.foldlM_cons, runExample_eq, bind_map_left]
    simp only [ih]
    exact (map_bind ..).symm

/-- **A run draws its examples, then records their verdicts.** -/
theorem runSuite_eq (cases : List Case) (examples : Nat) (source : σ) :
    runSuite cases examples tolerances keep source =
      (drawnExamples (schedule cases examples) source).foldlM (recordExample tolerances keep)
        .empty := by
  unfold runSuite
  rw [show (source, { passed := 0, failures := #[] }) = (source, (Report.empty : Report S D κ))
    from rfl, foldlM_runExample]
  simp

end Recording

end CrossEntropy
