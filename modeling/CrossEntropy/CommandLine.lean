import CrossEntropy.Archive.Dump
import CrossEntropy.Quoted
import CrossEntropy.Random.KeyStream
import CrossEntropy.Suite.Run

/-!
# The command line

Arguments ask for a run of the suite or for the replay of a dumped example. They are read as a
whole before anything is done.

* `Request`, `Command`: what a run is asked for, and what the program is asked for;
* `Misuse`, `Command.parse`: the command that arguments give, or what is wrong with them;
* `Storage`: where dumps are kept;
* `Command.announcement`, `Command.perform`: what is said before the work, and the work;
* `respond`: the whole answer to arguments.
-/

namespace CrossEntropy

/-- What a run of the suite is asked for. -/
structure Request where
  cases : List Case
  seed : UInt64
  examples : UInt64
  /-- Where the inputs of failed examples are dumped, if anywhere. -/
  dump : Option String

/-- The run that is made unless arguments say otherwise, of no case. -/
def Request.standard : Request := ⟨[], 1, 10, none⟩

/-- What the program is asked for. -/
inductive Command
  | run (request : Request)
  /-- Check the dumped example of a file again. -/
  | replay (file : String)

/-- What is wrong with arguments that give no command. -/
inductive Misuse
  /-- The value of a flag is not a number. -/
  | notANumber (flag : String)
  /-- The value of the case flag is no case. -/
  | notACase
  /-- A flag is unknown or lacks its value, or no case is named. -/
  | unclear
  deriving DecidableEq, Repr

/-- The command that arguments give on top of a request. The argument after a flag with a value
is always its value. -/
def Command.parseFrom (request : Request) : List String → Except Misuse Command
  | [] => if request.cases.isEmpty then .error .unclear else .ok (.run request)
  | "--run" :: rest => parseFrom { request with cases := Case.all } rest
  | "--case" :: name :: rest =>
    match Case.ofName? name with
    | some case => parseFrom { request with cases := request.cases ++ [case] } rest
    | none => .error .notACase
  | "--seed" :: value :: rest =>
    match parseWord? value with
    | some seed => parseFrom { request with seed } rest
    | none => .error (.notANumber "--seed")
  | "--examples" :: value :: rest =>
    match parseWord? value with
    | some examples => parseFrom { request with examples } rest
    | none => .error (.notANumber "--examples")
  | "--dump" :: directory :: rest => parseFrom { request with dump := some directory } rest
  | "--replay" :: file :: _ => .ok (.replay file)
  | ["--case"] => .error .notACase
  | ["--seed"] => .error (.notANumber "--seed")
  | ["--examples"] => .error (.notANumber "--examples")
  | _ => .error .unclear

/-- The command that arguments give. -/
def Command.parse : List String → Except Misuse Command := parseFrom .standard

/-! ## Texts -/

/-- What arguments can be, in two lines. -/
def usage : List String :=
  ["pass `--run` to check every case, or `--case [NAME]` to check one, " ++
      "optionally with `--seed [N]`, `--examples [N]`, and `--dump [DIRECTORY]`; " ++
      "or `--replay [NPZ dump file]` to re-check a dumped example",
    "cases: " ++ ", ".intercalate (Case.all.map Case.name)]

/-- What is said about wrong arguments before the usage. -/
def Misuse.complaint : Misuse → List String
  | notANumber flag => ["`" ++ flag ++ "` takes a number"]
  | notACase => ["`--case` takes one of the case names"]
  | unclear => []

/-- The lines about a failed example: what went wrong, and where its inputs are kept. -/
def failureLines (f : CaseFailure Float32 Float String) : List String :=
  ("FAILED " ++ f.case.name ++ " (example " ++ f.number.repr ++ "): " ++ f.failure.message) ::
    (f.kept.map fun path => "    inputs dumped to " ++ path).toList

/-- The lines about a run: every failure, and the numbers of examples that passed and failed. -/
def reportLines (report : Report Float32 Float String) : List String :=
  report.failures.toList.flatMap failureLines ++
    [report.passed.repr ++ " examples passed, " ++ report.failures.size.repr ++ " failed"]

/-! ## Performing commands -/

/-- Lines of output and the exit status. -/
structure Answer where
  lines : List String
  status : UInt32
  deriving DecidableEq, Repr

/-- Where dumps are kept. -/
structure Storage (m : Type → Type) where
  /-- The inputs in a file. -/
  load (file : String) : m (Except LoadError (CaseInputs UInt32))
  /-- Dumps the inputs of an example into a directory; gives the path of the dump, if it could be
  made. -/
  dump (directory : String) (case : Case) (number : Nat) (inputs : CaseInputs UInt32) :
    m (Option String)

/-- The case that a file's name says it was dumped from. -/
def replayedCase? (file : String) : Option Case := Dump.caseName? file >>= Case.ofName?

/-- What is said before a command is performed. -/
def Command.announcement : Command → String
  | run r =>
    "checking " ++ r.cases.length.repr ++ " cases, " ++ r.examples.toNat.repr ++
      " examples each, seed " ++ r.seed.toNat.repr
  | replay file =>
    match replayedCase? file with
    | some case => "replaying " ++ case.name ++ " from " ++ quoted file
    | none => "can't tell which case " ++ quoted file ++ " was dumped from"

/-- The result of checking loaded inputs. -/
def replayVerdict (case : Case) (loaded : CaseInputs UInt32) : Checked Float32 Float Unit :=
  checkCase case (loaded.map Float32.ofBits) .standard

section Perform

variable {m : Type → Type} [Monad m]

/-- Keeps the inputs of failed examples in a directory, if one is given. -/
@[inline] def Storage.keeper (storage : Storage m) (directory : Option String) :
    Keeper m Float32 String := fun case number inputs =>
  match directory with
  | none => return none
  | some directory => storage.dump directory case number (inputs.map Float32.toBits)

/-- Runs the suite as requested. The status tells whether all examples passed. -/
@[specialize] def Request.perform (storage : Storage m) (r : Request) : m Answer := do
  let report ← runSuite r.cases r.examples.toNat .standard (storage.keeper r.dump)
    (KeyStream.ofSeed r.seed)
  return ⟨reportLines report, if report.succeeded then 0 else 1⟩

/-- Checks a dumped example again. Inputs that cannot be loaded count as a failure. -/
def replayFile (storage : Storage m) (file : String) : m Answer := do
  match replayedCase? file with
  | none => return ⟨[], 1⟩
  | some case =>
    match ← storage.load file with
    | .error _ => return ⟨[], 1⟩
    | .ok loaded =>
      match replayVerdict case loaded with
      | .ok () => return ⟨[case.name ++ " passes"], 0⟩
      | .error failure => return ⟨[case.name ++ " fails: " ++ failure.message], 1⟩

/-- Does what the program is asked for. -/
@[specialize] def Command.perform (storage : Storage m) : Command → m Answer
  | run request => request.perform storage
  | replay file => replayFile storage file

/-- The whole answer to arguments. -/
@[specialize] def respond (storage : Storage m) (arguments : List String) : m Answer := do
  match Command.parse arguments with
  | .error misuse => return ⟨misuse.complaint ++ usage, 2⟩
  | .ok command =>
    let answer ← command.perform storage
    return { answer with lines := command.announcement :: answer.lines }

end Perform

end CrossEntropy
