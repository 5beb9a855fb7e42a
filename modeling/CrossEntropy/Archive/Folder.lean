import CrossEntropy.CommandLine

/-!
# Folders

A folder as a value: files by the components of their paths. It is the storage that the command
line has where no file system is at hand.

* `Folder.ofFiles`, `Folder.read?`: a folder, and the file at a path;
* `Folder.canHold`: whether a directory exists or can be made;
* `Folder.storage`: the folder as a storage of dumps.
-/

namespace CrossEntropy

/-- Files by the components of their paths, later ones in place of earlier ones. -/
structure Folder where
  files : List (List (List Char) × Bytes)

namespace Folder

/-- The folder of some files by their paths. -/
def ofFiles (files : List (String × Bytes)) : Folder :=
  ⟨(files.map fun (path, bytes) => (Path.components path.toList, bytes)).reverse⟩

/-- The file at a place. -/
def file? (folder : Folder) (place : List (List Char)) : Option Bytes :=
  (folder.files.find? (·.1 = place)).map (·.2)

/-- Whether there is a file below given components. -/
def isDirectory (folder : Folder) (place : List (List Char)) : Bool :=
  place.isEmpty || folder.files.any fun (path, _) => place.isPrefixOf path && place ≠ path

/-- Where a path leads, if all it passes through are directories within the folder. -/
def walk (folder : Folder) (place : List (List Char)) : List (List Char) → Option (List (List Char))
  | [] => some place
  | component :: rest =>
    if !folder.isDirectory place then none
    else if component ≠ ['.', '.'] then walk folder (place ++ [component]) rest
    else if place.isEmpty then none
    else walk folder place.dropLast rest

/-- Whether a path says that it is one of a directory. -/
def namesDirectory (path : List Char) : Bool :=
  match (Path.pieces '/' path).getLast? with
  | some piece => piece = [] ∨ piece = ['.']
  | none => true

/-- The file at a path. -/
def read? (folder : Folder) (path : String) : Option Bytes :=
  if namesDirectory path.toList || path.toList.head? = some '/' then none
  else folder.walk [] (Path.components path.toList) >>= folder.file?

/-- Whether a path leads out of the folder, or past no file and all its names can be made. -/
def isOpen (folder : Folder) (place : List (List Char)) : List (List Char) → Bool
  | [] => (folder.file? place).isNone
  | component :: rest =>
    (folder.file? place).isNone && (String.ofList component).utf8ByteSize ≤ Dump.longestName &&
      if component = ['.', '.'] then place.isEmpty || isOpen folder place.dropLast rest
      else isOpen folder (place ++ [component]) rest

/-- Whether there is a directory at a path or it can be made. Outside of the folder every
directory can. -/
def canHold (folder : Folder) (path : String) : Bool :=
  path.toList.head? = some '/' || folder.isOpen [] (Path.components path.toList)

/-- The folder as a storage in which every dump is made at the same time. -/
def storage (folder : Folder) (timestamp : String) : Storage Id where
  load path := match folder.read? path with
    | some bytes => Dump.loadFile bytes
    | none => .error .absent
  dump directory case number _ :=
    let name := Dump.fileName case.name number timestamp
    if folder.canHold directory && Dump.isFileName name then some (Path.join directory name)
    else none

end Folder

end CrossEntropy
