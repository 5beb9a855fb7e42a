/-!
# Paths

Paths are components with slashes between them.

* `Path.components`: the components, less empty ones and single dots;
* `Path.fileName?`, `Path.stem`: the last component, and what precedes its last dot;
* `Path.join`: a file in a directory.
-/

namespace CrossEntropy.Path

/-- The pieces of a text between separators. -/
def pieces (separator : Char) : List Char → List (List Char)
  | [] => [[]]
  | c :: cs =>
    if c = separator then [] :: pieces separator cs
    else match pieces separator cs with
      | [] => [[c]]
      | piece :: rest => (c :: piece) :: rest

/-- The components of a path that lead somewhere. -/
def components (path : List Char) : List (List Char) :=
  (pieces '/' path).filter fun piece => piece ≠ [] ∧ piece ≠ ['.']

/-- The last component of a path, unless it leads upwards. -/
def fileName? (path : List Char) : Option (List Char) :=
  match (components path).getLast? with
  | some ['.', '.'] => none
  | other => other

/-- What precedes the last separator, if there is one. -/
def beforeLast? (separator : Char) : List Char → Option (List Char)
  | [] => none
  | c :: cs =>
    match beforeLast? separator cs with
    | some before => some (c :: before)
    | none => if c = separator then some [] else none

/-- What precedes the first separator, if there is one. -/
def beforeFirst? (separator : Char) : List Char → Option (List Char)
  | [] => none
  | c :: cs => if c = separator then some [] else (beforeFirst? separator cs).map (c :: ·)

/-- A file name up to its last dot; all of it if there is none but at its start. -/
def stem (name : List Char) : List Char :=
  match beforeLast? '.' name with
  | none | some [] => name
  | some before => before

/-- The path of a file in a directory. -/
def join (directory file : String) : String :=
  if directory = "" ∨ directory.toList.getLast? = some '/' then directory ++ file
  else directory ++ "/" ++ file

end CrossEntropy.Path
