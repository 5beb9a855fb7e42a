import CrossEntropy.CommandLine
import Std.Time

/-!
# The program

The command line on the file system: dumps are files, named with the time at which they are made.
-/

namespace CrossEntropy

/-- A number with zeros before it up to a width. -/
def padded (width n : Nat) : String :=
  let digits := Nat.toDigits 10 n
  String.ofList (List.replicate (width - digits.length) '0' ++ digits)

/-- Date and time of day, with given separators between the parts. -/
def dateText (now : Std.Time.PlainDateTime) (dash middle colon : String) : String :=
  padded 4 now.year.toInt.toNat ++ dash ++ padded 2 now.month.toNat ++ dash ++
    padded 2 now.day.toNat ++ middle ++ padded 2 now.hour.val.toNat ++ colon ++
    padded 2 now.minute.val.toNat ++ colon ++ padded 2 now.second.val.toNat

/-- The time in the name of a dump. -/
def timestamp (now : Std.Time.PlainDateTime) : String :=
  dateText now "" "T" "" ++ "." ++ padded 3 (now.nanosecond.val.toNat / 1000000)

/-- The inputs in a file on disk. A file that cannot be read counts as absent. -/
def loadFromDisk (file : String) : IO (Except LoadError (CaseInputs UInt32)) := do
  try
    let bytes ← IO.FS.readBinFile file
    return Dump.loadFile bytes.data.toList
  catch _ => return .error .absent

/-- Writes a dump into a directory, which is made if it does not exist. -/
def dumpToDisk (directory : String) (case : Case) (number : Nat) (inputs : CaseInputs UInt32) :
    IO (Option String) := do
  try
    unless directory.isEmpty do IO.FS.createDirAll directory
    let now ← Std.Time.PlainDateTime.now
    let some (name, bytes) := Dump.file? {} case.name number (timestamp now) inputs | return none
    let path := Path.join directory name
    IO.FS.writeBinFile path ⟨bytes.toArray⟩
    return some path
  catch _ => return none

/-- The file system as a storage of dumps. -/
def disk : Storage IO := ⟨loadFromDisk, dumpToDisk⟩

end CrossEntropy

open CrossEntropy in
/-- Says what the program is and when it runs, then answers the arguments. -/
def main (arguments : List String) : IO UInt32 := do
  let now ← Std.Time.PlainDateTime.now
  IO.println ("softmax cross-entropy checks, " ++ dateText now "-" " " ":")
  match Command.parse arguments with
  | .error misuse =>
    for line in misuse.complaint ++ usage do IO.println line
    return 2
  | .ok command =>
    IO.println command.announcement
    (← IO.getStdout).flush
    let answer ← command.perform disk
    for line in answer.lines do IO.println line
    return answer.status
