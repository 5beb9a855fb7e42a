import CrossEntropy.Proofs.Check.Loosening
import CrossEntropy.Proofs.Random.Ranges
import CrossEntropy.Proofs.Suite.Accounts

/-!
# Runs with loosened tolerances

Verdicts have no influence on the examples of a run, so that two runs with different tolerances
check the same ones. With larger tolerances none of those that passed is lost.

* `passes_mono`, `passed_le`: the examples that pass, and how many they are;
* `failedPlaces_subset`: the places whose example fails;
* **`runSuite_loosened`**: single examples and whole runs.
-/

namespace CrossEntropy

variable {σ S D κ κ' : Type} [Source σ] [Scalar S] [Sampled S] [Scalar D] [Precision S D]
  [ToleranceScalar S] [ToleranceScalar D] {strict loose : Tolerances S D}

omit [Source σ] [Sampled S] in
theorem passes_mono (hloosens : loose.Loosens strict) {e : Example S}
    (h : e.passes strict = true) : e.passes loose = true :=
  passes_iff.mpr (checkCase_mono hloosens (passes_iff.mp h))

omit [Source σ] [Sampled S] in
theorem passed_le (hloosens : loose.Loosens strict) {drawn : List (Example S)}
    {Kept : Option κ → Prop} {Kept' : Option κ' → Prop} {report : Report S D κ}
    {report' : Report S D κ'} (h : report.IsOf strict Kept drawn)
    (h' : report'.IsOf loose Kept' drawn) : report.passed ≤ report'.passed := by
  rw [h.passed, h'.passed]
  exact List.countP_mono_left fun e _ he => passes_mono hloosens he

theorem failedPlaces_subset (hloosens : loose.Loosens strict) (cases : List Case) (examples : Nat)
    (source : σ) : failedPlaces loose cases examples source ⊆
      failedPlaces strict cases examples source := by
  intro place hplace
  rw [failedPlaces, List.mem_filter] at hplace ⊢
  refine ⟨hplace.1, ?_⟩
  by_contra hpasses
  rw [Bool.not_eq_true', Bool.not_eq_false] at hpasses
  simp [passes_mono hloosens hpasses] at hplace

variable {m m' : Type → Type} [Monad m] [Monad m'] [LawfulMonad m] [LawfulMonad m']

/-- **Larger tolerances never turn a pass into a failure.** An example that passes still passes; of
two runs on the same cases from the same source, the one with the larger tolerances passes at least
as many examples, and where it reports a failure, so does the other. -/
theorem runSuite_loosened (hloosens : loose.Loosens strict) (cases : List Case) (examples : Nat)
    (source : σ) (keep : Keeper m S κ) (keep' : Keeper m' S κ') :
    (∀ (case : Case) (inputs : CaseInputs S),
      checkCase case inputs strict = .ok () → checkCase case inputs loose = .ok ()) ∧
    SatisfiesM
      (fun report => SatisfiesM
        (fun report' => report.passed ≤ report'.passed ∧ ∃ failed failed',
          report.Accounts strict cases examples source failed ∧
          report'.Accounts loose cases examples source failed' ∧ failed' ⊆ failed)
        (runSuite cases examples loose keep' source))
      (runSuite cases examples strict keep source) := by
  refine ⟨fun _ _ => checkCase_mono hloosens, ?_⟩
  refine (runSuite_isOf (fun _ _ _ => SatisfiesM.trivial) cases examples source).imp ?_
  intro report h
  refine (runSuite_isOf (fun _ _ _ => SatisfiesM.trivial) cases examples source).imp ?_
  intro report' h'
  exact ⟨passed_le hloosens h h', _, _, h.accounts, h'.accounts,
    failedPlaces_subset hloosens cases examples source⟩

/-- Thresholds of which two are given up: two rows that pass with a large threshold for gradients,
and runs of which one keeps the inputs of failures. -/
theorem runSuite_loosened_infinite :
    let strict : Tolerances Extended Extended :=
      ⟨.finite (1 / 10), .finite (1 / 10), .finite 0, .finite 0, .finite 0⟩
    let loose : Tolerances Extended Extended :=
      { strict with gradient := .infinite false, simplex := .infinite false }
    let rows : CaseInputs Extended :=
      { CaseInputs.ofScores ⟨[2, 2], #v[.finite 0, .finite 1, .finite 2, .finite 1]⟩ with
        labels := some ⟨[2], #v[0, 1]⟩ }
    let cases : List Case := [.softmaxWithLoss, .spatialSoftmaxWithLoss, .softmaxWithLoss]
    let source : WordCycle := .ofWords [7, 0xfedcba9876543210, 3]
    let keep : Keeper (StateM Nat) Extended Nat :=
      fun _ _ _ => modifyGet fun next => (some next, next + 1)
    let drop : Keeper Id Extended Nat := fun _ _ _ => none
    loose.Loosens strict ∧
      (checkCase .softmaxWithLoss rows strict = .ok () ∧
        checkCase .softmaxWithLoss rows loose = .ok ()) ∧
      SatisfiesM
        (fun report => SatisfiesM (fun report' => report.passed ≤ report'.passed ∧
            ∃ failed failed', report.Accounts strict cases 2 source failed ∧
              report'.Accounts loose cases 2 source failed' ∧ failed' ⊆ failed)
          (runSuite cases 2 loose drop source))
        (runSuite cases 2 strict keep source) := by
  intro strict loose rows cases source keep drop
  have hloosens : loose.Loosens strict := by
    refine ⟨rfl, ?_, ?_, ?_, ?_⟩ <;> decide +kernel
  have hpasses : checkCase .softmaxWithLoss rows strict = .ok () := by decide +kernel
  obtain ⟨hexample, hruns⟩ := runSuite_loosened hloosens cases 2 source keep drop
  exact ⟨hloosens, ⟨hpasses, hexample _ _ hpasses⟩, hruns⟩

end CrossEntropy
