import CrossEntropy.Proofs.CaseName
import CrossEntropy.Proofs.Replay

/-!
# The grammar of the command line

Arguments come in groups, a flag alone or with its value. Groups ask for a run of the suite, and a
file behind them for a replay instead. Nothing is done before all that counts is read.

* `Setting`, `Setting.Spelled`, `Spelled`: what a group sets, and the arguments for settings;
* `Request.amended`: the request that settings make of another one;
* `Command.parseFrom_append`: groups are taken in one after the other;
* `Command.Asked`, **`Command.parseFrom_eq_ok_iff`**: the arguments that ask for a command;
* `Command.Done`: what doing a command amounts to;
* **`respond_grammar`**: what arguments ask for is done, and nothing if they ask for nothing.
-/

namespace CrossEntropy

/-! ## Groups of arguments -/

/-- What a group of arguments sets. -/
inductive Setting
  | allCases
  | oneCase (case : Case)
  | seed (n : UInt64)
  | examples (n : UInt64)
  | dump (directory : String)

/-- A text spells a 64-bit number: digits whose value fits, after a plus sign or none. -/
def SpellsWord (text : String) (n : UInt64) : Prop :=
  ∃ sign digits, (sign = "" ∨ sign = "+") ∧ text = sign ++ String.ofList digits ∧
    IsNumeral digits n.toNat

/-- The groups of arguments for a setting. What comes after a flag with a value is the value, even
if it looks like a flag. -/
inductive Setting.Spelled : List String → Setting → Prop
  | allCases : Spelled ["--run"] allCases
  | oneCase {name : String} {case : Case} (h : case.Spells name) :
      Spelled ["--case", name] (oneCase case)
  | seed {numeral : String} {n : UInt64} (h : SpellsWord numeral n) :
      Spelled ["--seed", numeral] (seed n)
  | examples {numeral : String} {n : UInt64} (h : SpellsWord numeral n) :
      Spelled ["--examples", numeral] (examples n)
  | dump (directory : String) : Spelled ["--dump", directory] (dump directory)

/-- Arguments are groups for some settings, one after the other. -/
inductive Spelled : List String → List Setting → Prop
  | nil : Spelled [] []
  | cons {group rest : List String} {setting : Setting} {settings : List Setting}
      (h : setting.Spelled group) (hrest : Spelled rest settings) :
      Spelled (group ++ rest) (setting :: settings)

/-! ## Requests -/

namespace Setting

/-- The cases once a setting has been taken in. -/
def amendCases (cases : List Case) : Setting → List Case
  | allCases => Case.all
  | oneCase case => cases ++ [case]
  | _ => cases

/-- Whether a setting gives cases. -/
def givesCases : Setting → Bool
  | allCases | oneCase _ => true
  | _ => false

/-- The seed that a setting gives. -/
def seed? : Setting → Option UInt64
  | seed n => some n
  | _ => none

/-- The number of examples that a setting gives. -/
def examples? : Setting → Option UInt64
  | examples n => some n
  | _ => none

/-- The directory of dumps that a setting gives. -/
def directory? : Setting → Option String
  | dump directory => some directory
  | _ => none

end Setting

/-- The request that settings make of another one: its cases are amended in order, and of
everything else the last one given counts. -/
def Request.amended (request : Request) (settings : List Setting) : Request where
  cases := settings.foldl Setting.amendCases request.cases
  seed := (settings.filterMap Setting.seed?).getLast?.getD request.seed
  examples := (settings.filterMap Setting.examples?).getLast?.getD request.examples
  dump := (settings.filterMap Setting.directory?).getLast?.or request.dump

@[simp] theorem amended_nil (request : Request) : request.amended [] = request := rfl

theorem amended_cons (request : Request) (setting : Setting) (settings : List Setting) :
    request.amended (setting :: settings) = (request.amended [setting]).amended settings := by
  cases setting <;>
    simp [Request.amended, Setting.amendCases, Setting.seed?, Setting.examples?,
      Setting.directory?, List.getLast?_cons]

theorem amendCases_ne_nil_iff {cases : List Case} {setting : Setting} :
    setting.amendCases cases ≠ [] ↔ setting.givesCases = true ∨ cases ≠ [] := by
  cases setting <;> simp [Setting.amendCases, Setting.givesCases, Case.all]

theorem cases_amended_ne_nil_iff {request : Request} {settings : List Setting} :
    (request.amended settings).cases ≠ [] ↔
      (∃ setting ∈ settings, setting.givesCases = true) ∨ request.cases ≠ [] := by
  induction settings generalizing request with
  | nil => simp
  | cons setting settings ih =>
    have hfirst : (request.amended [setting]).cases = setting.amendCases request.cases := rfl
    rw [amended_cons, ih, hfirst, amendCases_ne_nil_iff, List.exists_mem_cons_iff, or_left_comm,
      or_assoc]

/-! ## Reading groups -/

namespace Command

/-- A group is taken in: its setting amends the request. -/
theorem parseFrom_group {group : List String} {setting : Setting} (h : setting.Spelled group)
    (request : Request) (rest : List String) :
    parseFrom request (group ++ rest) = parseFrom (request.amended [setting]) rest := by
  cases h with
  | allCases => rfl
  | oneCase h =>
    simp only [List.cons_append, List.nil_append, parseFrom, Case.ofName?_eq_some_iff.mpr h]
    rfl
  | seed h =>
    simp only [List.cons_append, List.nil_append, parseFrom, parseWord?_eq_some_iff.mpr h]
    rfl
  | examples h =>
    simp only [List.cons_append, List.nil_append, parseFrom, parseWord?_eq_some_iff.mpr h]
    rfl
  | dump directory => rfl

/-- Groups are taken in one after the other. -/
theorem parseFrom_append {groups : List String} {settings : List Setting}
    (h : Spelled groups settings) (request : Request) (rest : List String) :
    parseFrom request (groups ++ rest) = parseFrom (request.amended settings) rest := by
  induction h generalizing request with
  | nil => rfl
  | cons h _ ih => rw [List.append_assoc, parseFrom_group h, ih, ← amended_cons]

/-! ## Commands -/

/-- Arguments ask for a command on top of a request. Groups ask for a run, if there are cases for
it. A file behind groups asks for its replay, whatever comes after it. -/
inductive Asked (request : Request) : List String → Command → Prop
  | run {arguments : List String} {settings : List Setting} (h : Spelled arguments settings)
      (hcases : (∃ setting ∈ settings, setting.givesCases = true) ∨ request.cases ≠ []) :
      Asked request arguments (.run (request.amended settings))
  | replay {groups : List String} {settings : List Setting} (h : Spelled groups settings)
      (file : String) (ignored : List String) :
      Asked request (groups ++ "--replay" :: file :: ignored) (.replay file)

theorem Asked.cons {request : Request} {group rest : List String} {setting : Setting}
    {command : Command} (h : setting.Spelled group)
    (hrest : Asked (request.amended [setting]) rest command) :
    Asked request (group ++ rest) command := by
  cases hrest with
  | run hrest hcases =>
    rw [← amended_cons]
    refine .run (.cons h hrest) (cases_amended_ne_nil_iff.mp ?_)
    rwa [amended_cons, cases_amended_ne_nil_iff]
  | replay hrest file ignored =>
    rw [← List.append_assoc]
    exact .replay (.cons h hrest) file ignored

theorem asked_of_parseFrom {request : Request} {arguments : List String} {command : Command}
    (h : parseFrom request arguments = .ok command) : Asked request arguments command := by
  induction request, arguments using parseFrom.induct with
  | case1 request hcases =>
    rw [parseFrom, if_pos hcases] at h
    cases h
  | case2 request hcases =>
    rw [parseFrom, if_neg hcases] at h
    cases h
    exact .run .nil (.inr (by simpa using hcases))
  | case3 request rest ih => exact Asked.cons .allCases (ih h)
  | case4 request name rest case hname ih =>
    simp only [parseFrom, hname] at h
    exact Asked.cons (.oneCase (Case.ofName?_eq_some_iff.mp hname)) (ih h)
  | case6 request numeral rest n hn ih =>
    simp only [parseFrom, hn] at h
    exact Asked.cons (.seed (parseWord?_eq_some_iff.mp hn)) (ih h)
  | case8 request numeral rest n hn ih =>
    simp only [parseFrom, hn] at h
    exact Asked.cons (.examples (parseWord?_eq_some_iff.mp hn)) (ih h)
  | case10 request directory rest ih => exact Asked.cons (.dump directory) (ih h)
  | case11 request file ignored =>
    cases h
    exact .replay .nil file ignored
  | _ => simp_all [parseFrom]

/-- **Arguments are read as the command that they ask for**, and as none otherwise. -/
theorem parseFrom_eq_ok_iff {request : Request} {arguments : List String} {command : Command} :
    parseFrom request arguments = .ok command ↔ Asked request arguments command := by
  refine ⟨asked_of_parseFrom, fun h => ?_⟩
  cases h with
  | @run _ settings h hcases =>
    have hne : (request.amended settings).cases.isEmpty = false := by
      simpa using cases_amended_ne_nil_iff.mpr hcases
    have happend := parseFrom_append h request []
    rwa [List.append_nil, parseFrom, hne] at happend
  | replay h file ignored =>
    rw [parseFrom_append h]
    rfl

end Command

/-! ## What is done -/

variable {m : Type → Type} [Monad m]

open Command in
/-- What it is to do a command. A run is one run of the suite, with everything as requested; it
succeeds if no example fails. A replay loads its file and nothing else, or not even that if the
name of the file tells no case; it succeeds if there are inputs in the file and they pass. -/
inductive Command.Done (storage : Storage m) : Command → m Answer → Prop
  | run {request : Request} (answer : Report Float32 Float String → Answer)
      (hstatus : ∀ report, Tells (answer report).status (report.failures = #[])) :
      Done storage (run request) (do
        let report ← runSuite request.cases request.examples.toNat .standard
          (storage.keeper request.dump) (KeyStream.ofSeed request.seed)
        return answer report)
  | replay {file : String} {case : Case} (hcase : replayedCase? file = some case)
      (answer : Except LoadError (CaseInputs UInt32) → Answer)
      (hstatus : ∀ loaded, Tells (answer loaded).status
        (∃ inputs, loaded = .ok inputs ∧ replayVerdict case inputs = .ok ())) :
      Done storage (replay file) (do return answer (← storage.load file))
  | unknown {file : String} (hcase : replayedCase? file = none) (answer : Answer)
      (hstatus : answer.status = 1) : Done storage (replay file) (return answer)

section Respond

variable (storage : Storage m)

theorem perform_run (request : Request) : (Command.run request).perform storage =
    (do
      let report ← runSuite request.cases request.examples.toNat .standard
        (storage.keeper request.dump) (KeyStream.ofSeed request.seed)
      return ⟨reportLines report, if report.failures = #[] then 0 else 1⟩) := by
  simp only [Command.perform, Request.perform, Report.succeeded, Array.isEmpty_iff]

/-- Arguments that give no command are answered at once, and the usage is what is said last. -/
theorem respond_of_misuse {arguments : List String} {misuse : Misuse}
    (h : Command.parse arguments = .error misuse) :
    respond storage arguments = pure ⟨misuse.complaint ++ usage, 2⟩ := by
  unfold respond
  rw [h]

variable [LawfulMonad m]

theorem done_of_parse {arguments : List String} {command : Command}
    (h : Command.parse arguments = .ok command) :
    command.Done storage (respond storage arguments) := by
  unfold respond
  rw [h]
  cases command with
  | run request =>
    simp only [perform_run, bind_assoc, pure_bind]
    exact .run _ fun report => tells_ite _
  | replay file =>
    cases hcase : replayedCase? file with
    | none =>
      simp only [Command.perform, replayFile, hcase, pure_bind]
      exact .unknown hcase _ rfl
    | some case =>
      simp only [Command.perform, replayFile_eq_bind hcase, bind_assoc, pure_bind]
      exact .replay hcase _ fun loaded => tells_loadedAnswer case loaded

/-- **The program does what its arguments ask for.** They are read as a command exactly if they ask
for it by the grammar. The command is then done, a run or a replay, with the status that tells how
it went. Whatever else the arguments are, the answer is the usage with status 2, and nothing is run,
loaded or dumped for it. -/
theorem respond_grammar (arguments : List String) :
    (∀ command, Command.parse arguments = .ok command ↔
        Command.Asked .standard arguments command) ∧
      (∀ command, Command.Asked .standard arguments command →
        command.Done storage (respond storage arguments)) ∧
      ((∀ command, ¬ Command.Asked .standard arguments command) →
        ∃ complaint, respond storage arguments = pure ⟨complaint ++ usage, 2⟩) := by
  have hparse (command : Command) :
      Command.parse arguments = .ok command ↔ Command.Asked .standard arguments command :=
    Command.parseFrom_eq_ok_iff
  refine ⟨hparse, fun command hasked => done_of_parse storage ((hparse command).mpr hasked), ?_⟩
  intro hnone
  cases hcommand : Command.parse arguments with
  | ok command => exact absurd ((hparse command).mp hcommand) (hnone command)
  | error misuse => exact ⟨misuse.complaint, respond_of_misuse storage hcommand⟩

end Respond

/-- A run with a flag for the name of its directory, a replay with a flag that there is none of
behind it, and settings without a case. -/
theorem respond_grammar_flags :
    let storage := (Folder.ofFiles []).storage "20240229T235959.999"
    let run := ["--case", "softmax", "--seed", "+7", "--run", "--dump", "--replay", "--case",
      "softmax_axis_01", "--seed", "3"]
    let request : Request := ⟨Case.all ++ [.softmaxAxis 1], 3, 10, some "--replay"⟩
    let replay := ["--run", "--dump", "a", "--replay", "softmax-0-now.npz", "--colour"]
    let settings := ["--seed", "5"]
    (Command.Asked .standard run (.run request) ∧
        (Command.run request).Done (m := Id) storage (respond storage run)) ∧
      (Command.Asked .standard replay (.replay "softmax-0-now.npz") ∧
        (Command.replay "softmax-0-now.npz").Done (m := Id) storage (respond storage replay)) ∧
      (∀ command, ¬ Command.Asked .standard settings command) ∧
        ∃ complaint, respond (m := Id) storage settings = ⟨complaint ++ usage, 2⟩ := by
  intro storage run request replay settings
  obtain ⟨hrun, hrunDone, -⟩ := respond_grammar (m := Id) storage run
  obtain ⟨hreplay, hreplayDone, -⟩ := respond_grammar (m := Id) storage replay
  obtain ⟨hsettings, -, husage⟩ := respond_grammar (m := Id) storage settings
  have hrunAsked := (hrun (.run request)).mp rfl
  have hreplayAsked := (hreplay (.replay "softmax-0-now.npz")).mp rfl
  have hnone (command : Command) : ¬ Command.Asked .standard settings command :=
    fun hasked => nomatch (hsettings command).mpr hasked
  exact ⟨⟨hrunAsked, hrunDone _ hrunAsked⟩, ⟨hreplayAsked, hreplayDone _ hreplayAsked⟩, hnone,
    husage hnone⟩

end CrossEntropy
