import CrossEntropy.Archive.Entry
import CrossEntropy.Archive.Zip
import CrossEntropy.Path
import CrossEntropy.Suite.Case

/-!
# Dumps

The inputs of an example are kept in an archive with one entry per tensor, so that the example can
be checked again. Entries hold the bit patterns of the numbers.

* `Dump.entries`: the archive of inputs;
* `LoadError`, `Dump.load`: the inputs in an archive, or why there are none;
* `Dump.fileName`, `Dump.caseName?`: the name of a dump, and the case it was written for;
* `Dump.file?`: the file of a dump, if it can be made.
-/

namespace CrossEntropy

/-- The memory orders of an example's floating-point tensors. -/
structure InputOrders where
  scores : MemoryOrder := .rowMajor
  targets : MemoryOrder := .rowMajor
  weights : MemoryOrder := .rowMajor

/-- Why no inputs can be loaded. -/
inductive LoadError
  /-- There is no such file. -/
  | absent
  /-- The file is no archive. -/
  | notArchive
  /-- The archive has no entry for the scores. -/
  | noScores
  /-- An entry cannot be read. -/
  | entry (error : EntryError)
  deriving DecidableEq, Repr

namespace Dump

/-! ## Writing -/

/-- What the names of entries end in. -/
def extension : String := ".npy"

/-- The entry for a tensor: its name with the extension, and its array. -/
def entry (name : String) (type : ElementType) (order : MemoryOrder) (x : Tensor UInt32) :
    String × Bytes :=
  (name ++ extension, Entry.write type order x)

/-- The entry for a tensor that may be absent. -/
def optionalEntry (name : String) (type : ElementType) (order : MemoryOrder)
    (x : Option (Tensor UInt32)) : Archive :=
  (x.map (entry name type order)).toList

/-- The archive of inputs: scores, then labels, targets and weights if there are any. -/
def entries (orders : InputOrders) (inputs : CaseInputs UInt32) : Archive :=
  entry "scores" .float orders.scores inputs.scores ::
    (optionalEntry "labels" .integer .rowMajor (inputs.labels.map (·.map Int32.toUInt32)) ++
      optionalEntry "targets" .float orders.targets inputs.targets ++
      optionalEntry "weights" .float orders.weights inputs.weights)

/-! ## Reading -/

/-- Drops the extension from a reversed name, if it is there. -/
def dropExtension : List Char → List Char
  | 'y' :: 'p' :: 'n' :: '.' :: rest => rest
  | name => name

/-- Drops the extension from a reversed name as long as it is there. -/
def dropExtensions : List Char → List Char
  | 'y' :: 'p' :: 'n' :: '.' :: rest => dropExtensions rest
  | name => name

/-- The name by which an entry is read: its own, less one extension. -/
def readName (name : String) : String := .ofList (dropExtension name.toList.reverse).reverse

/-- The tensor that an entry is for: its name, less all extensions. -/
def tensorName (name : String) : String := .ofList (dropExtensions name.toList.reverse).reverse

/-- The last entry of exactly this name, or else of this name and the extension. -/
def byName? (archive : Archive) (name : String) : Option Bytes :=
  let find (name : String) : Option Bytes := (archive.reverse.find? (·.1 = name)).map (·.2)
  (find name).or (find (name ++ extension))

/-- The entry for a tensor: the first name that stands for it decides which one is read. -/
def stored? (archive : Archive) (tensor : String) : Option Bytes := do
  let name ← (archive.map (readName ·.1)).find? (tensorName · = tensor)
  byName? archive name

/-- The tensor that an entry holds. -/
def tensor (type : ElementType) (bytes : Bytes) : Except LoadError (Tensor UInt32) :=
  (Entry.read type bytes).mapError .entry

/-- The tensor of a name, if the archive has an entry for it. -/
def tensor? (archive : Archive) (name : String) (type : ElementType) :
    Except LoadError (Option (Tensor UInt32)) :=
  match stored? archive name with
  | none => .ok none
  | some bytes => some <$> tensor type bytes

/-- The inputs in an archive. Entries are read in a fixed order, so that the first bad one is
reported. -/
def load (archive : Archive) : Except LoadError (CaseInputs UInt32) := do
  let some bytes := stored? archive "scores" | throw .noScores
  let scores ← tensor .float bytes
  let labels ← tensor? archive "labels" .integer
  let targets ← tensor? archive "targets" .float
  let weights ← tensor? archive "weights" .float
  return ⟨scores, labels.map (·.map UInt32.toInt32), targets, weights⟩

/-- The inputs in the bytes of an archive. -/
def loadFile (bytes : Bytes) : Except LoadError (CaseInputs UInt32) :=
  match Zip.read? bytes with
  | some archive => load archive
  | none => .error .notArchive

/-! ## Files -/

/-- The name of an example's dump: case, example and time with hyphens between them. -/
def fileName (case : String) (number : Nat) (timestamp : String) : String :=
  case ++ "-" ++ number.repr ++ "-" ++ timestamp ++ ".npz"

/-- The longest name of a file, in bytes. -/
def longestName : Nat := 255

/-- Whether a file of this name can be made in a directory. -/
def isFileName (name : String) : Bool :=
  name.utf8ByteSize ≤ longestName && !name.contains '/' && !name.contains '\x00'

/-- The file of a dump, name and bytes, if it can be made. -/
def file? (orders : InputOrders) (case : String) (number : Nat) (timestamp : String)
    (inputs : CaseInputs UInt32) : Option (String × Bytes) := do
  let name := fileName case number timestamp
  guard (isFileName name)
  let bytes ← Zip.write? (entries orders inputs)
  return (name, bytes)

/-- The case that a dump was written for, by its path: its stem up to the first hyphen. Names of
cases have none. -/
def caseName? (path : String) : Option String := do
  let name ← Path.fileName? path.toList
  return .ofList (← Path.beforeFirst? '-' (Path.stem name))

end Dump

/-- What is told about a failure to load. -/
def LoadError.message : LoadError → String
  | absent => "no such file"
  | notArchive => "not an archive"
  | noScores => "dump has no scores"
  | entry _ => "an entry cannot be read"

end CrossEntropy
