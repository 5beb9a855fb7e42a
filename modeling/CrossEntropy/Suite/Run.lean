import CrossEntropy.Suite.Check
import CrossEntropy.Suite.Generate

/-!
# Suite runs

A run draws examples of a list of cases from one source and checks each of them. Inputs of failed
examples may be handed on, to be kept for later.

* `exampleCount`, `schedule`: the examples of a run, in order;
* `Report`: how many examples passed, and the failures;
* `runExample`, `runSuite`: one example, and a run.
-/

namespace CrossEntropy

/-- The number of examples of a case. The large case is slow enough that a few will do. -/
def exampleCount (case : Case) (examples : Nat) : Nat :=
  if case.isGradientChecked then examples else min examples 3

/-- The examples of a run, case by case. -/
def schedule (cases : List Case) (examples : Nat) : List (Case × Nat) :=
  cases.flatMap fun case => (List.range (exampleCount case examples)).map (case, ·)

/-- A failed example, with what its inputs were kept as. -/
structure CaseFailure (S D κ : Type) where
  case : Case
  number : Nat
  failure : CheckFailure S D
  kept : Option κ

/-- The outcome of a run. -/
structure Report (S D κ : Type) where
  passed : Nat
  failures : Array (CaseFailure S D κ)

/-- Whether no example failed. -/
def Report.succeeded {S D κ : Type} (report : Report S D κ) : Bool := report.failures.isEmpty

/-- What is done with the inputs of a failed example. -/
abbrev Keeper (m : Type → Type) (S κ : Type) := Case → Nat → CaseInputs S → m (Option κ)

section Run

variable {σ S D κ : Type} [Source σ] [Scalar S] [Sampled S] [Scalar D] [Precision S D]
variable {m : Type → Type} [Monad m]

/-- Draws and checks one example, and adds its verdict to a report. -/
@[specialize] def runExample (tolerances : Tolerances S D) (keep : Keeper m S κ)
    (state : σ × Report S D κ) (planned : Case × Nat) : m (σ × Report S D κ) := do
  let (case, number) := planned
  let (source, report) := state
  let (inputs, source) := (case.generate : Draw σ (CaseInputs S)).run source
  match checkCase case inputs tolerances with
  | .ok () => return (source, { report with passed := report.passed + 1 })
  | .error failure =>
    let kept ← keep case number inputs
    return (source, { report with failures := report.failures.push ⟨case, number, failure, kept⟩ })

/-- Runs the examples of a list of cases one after the other. -/
@[specialize] def runSuite (cases : List Case) (examples : Nat) (tolerances : Tolerances S D)
    (keep : Keeper m S κ) (source : σ) : m (Report S D κ) := do
  let (_, report) ← (schedule cases examples).foldlM (runExample tolerances keep)
    (source, { passed := 0, failures := #[] })
  return report

end Run

end CrossEntropy
