import CrossEntropy.Proofs.CaseName
import CrossEntropy.Archive.Dump

/-!
# Names of dumps

The path of a dump leads back to the case it was written for: the directory is cut off, then the
extension, and the case is what precedes the first hyphen.

* `Path.pieces_append_cons`, `Path.beforeFirst?_append`, `Path.beforeLast?_append`: texts cut at a
  separator;
* `Path.fileName?_join`, `Path.stem_append`: the file of a path, and its stem;
* **`Dump.caseName?_join`**: the case of a dump in any directory.
-/

namespace CrossEntropy

namespace Path

variable {separator : Char}

/-! ## Cutting at a separator -/

theorem pieces_ne_nil (text : List Char) : pieces separator text ≠ [] := by
  cases text with
  | nil => simp [pieces]
  | cons c text =>
    rw [pieces]
    split
    · simp
    · split <;> simp

theorem pieces_append_cons (before after : List Char) :
    pieces separator (before ++ separator :: after) =
      pieces separator before ++ pieces separator after := by
  induction before with
  | nil => simp [pieces]
  | cons c before ih =>
    rw [List.cons_append, pieces, pieces, ih]
    split
    next => rfl
    next =>
      obtain ⟨piece, rest, hpieces⟩ := List.exists_cons_of_ne_nil (pieces_ne_nil before)
      rw [hpieces]
      rfl

theorem pieces_of_not_mem {text : List Char} (h : separator ∉ text) :
    pieces separator text = [text] := by
  induction text with
  | nil => rfl
  | cons c text ih =>
    rw [List.mem_cons, not_or] at h
    rw [pieces, if_neg (Ne.symm h.1), ih h.2]

theorem beforeFirst?_append {before : List Char} (h : separator ∉ before) (after : List Char) :
    beforeFirst? separator (before ++ separator :: after) = some before := by
  induction before with
  | nil => exact if_pos rfl
  | cons c before ih =>
    rw [List.mem_cons, not_or] at h
    rw [List.cons_append, beforeFirst?, if_neg (Ne.symm h.1), ih h.2, Option.map_some]

theorem beforeLast?_of_not_mem {text : List Char} (h : separator ∉ text) :
    beforeLast? separator text = none := by
  induction text with
  | nil => rfl
  | cons c text ih =>
    rw [List.mem_cons, not_or] at h
    rw [beforeLast?, ih h.2]
    exact if_neg (Ne.symm h.1)

theorem beforeLast?_append {after : List Char} (h : separator ∉ after) (before : List Char) :
    beforeLast? separator (before ++ separator :: after) = some before := by
  induction before with
  | nil =>
    rw [List.nil_append, beforeLast?, beforeLast?_of_not_mem h]
    exact if_pos rfl
  | cons c before ih => rw [List.cons_append, beforeLast?, ih]

/-! ## Files and their stems -/

/-- A file name less its extension is its stem, whatever other dots it has. -/
theorem stem_append {extension : List Char} (h : '.' ∉ extension) {name : List Char}
    (hname : name ≠ []) : stem (name ++ '.' :: extension) = name := by
  cases name with
  | nil => exact absurd rfl hname
  | cons c name =>
    rw [stem, beforeLast?_append h]

/-- A file in a directory keeps its pieces, whether or not the directory ends in a slash. -/
theorem pieces_join (directory file : String) :
    ∃ before, pieces '/' (join directory file).toList = before ++ pieces '/' file.toList := by
  unfold join
  split
  next h =>
    rw [String.toList_append]
    rcases h with rfl | hlast
    · exact ⟨[], rfl⟩
    · obtain ⟨start, hstart⟩ := List.getLast?_eq_some_iff.mp hlast
      refine ⟨pieces '/' start, ?_⟩
      rw [hstart, List.append_assoc]
      exact pieces_append_cons start file.toList
  next =>
    refine ⟨pieces '/' directory.toList, ?_⟩
    rw [String.toList_append, String.toList_append, List.append_assoc]
    exact pieces_append_cons directory.toList file.toList

/-- **The file of a path** into a directory of any name is the file that was put there. -/
theorem fileName?_join {file : String} (hslash : '/' ∉ file.toList)
    (hdots : file.toList ∉ [[], ['.'], ['.', '.']]) (directory : String) :
    fileName? (join directory file).toList = some file.toList := by
  simp only [List.mem_cons, List.not_mem_nil, or_false, not_or] at hdots
  obtain ⟨before, hbefore⟩ := pieces_join directory file
  have hlast : (components (join directory file).toList).getLast? = some file.toList := by
    rw [components, hbefore, pieces_of_not_mem hslash, List.filter_append]
    have hkept : [file.toList].filter (fun piece => piece ≠ [] ∧ piece ≠ ['.']) =
        [file.toList] := by
      simp [hdots]
    rw [hkept, List.getLast?_concat]
  rw [fileName?, hlast]
  split
  next h => exact absurd (Option.some_inj.mp h) hdots.2.2
  next => rfl

end Path

/-! ## Dumps -/

namespace Dump

theorem toList_fileName (case : String) (number : Nat) (timestamp : String) :
    (fileName case number timestamp).toList =
      (case.toList ++ '-' :: (number.repr.toList ++ '-' :: timestamp.toList)) ++
        '.' :: ['n', 'p', 'z'] := by
  simp [fileName, String.toList_append]

theorem slash_not_mem {name : String} (h : isFileName name = true) : '/' ∉ name.toList := by
  simp only [isFileName, String.contains_char_eq, Bool.and_eq_true, Bool.not_eq_true',
    decide_eq_false_iff_not] at h
  exact h.1.2

/-- **The path of a dump tells its case**, whatever its directory, number and time are called. -/
theorem caseName?_join {case timestamp : String} {number : Nat} (hcase : '-' ∉ case.toList)
    (hfile : isFileName (fileName case number timestamp) = true) (directory : String) :
    caseName? (Path.join directory (fileName case number timestamp)) = some case := by
  have htext := toList_fileName case number timestamp
  have hdots : (fileName case number timestamp).toList ∉ [[], ['.'], ['.', '.']] := by
    intro h
    have hz : 'z' ∈ (fileName case number timestamp).toList := by simp [htext]
    have hfree : ∀ name ∈ [[], ['.'], ['.', '.']], 'z' ∉ name := by decide
    exact hfree _ h hz
  have hstem : Path.stem (fileName case number timestamp).toList =
      case.toList ++ '-' :: (number.repr.toList ++ '-' :: timestamp.toList) := by
    rw [htext]
    exact Path.stem_append (by decide) (by simp)
  simp only [caseName?, Path.fileName?_join (slash_not_mem hfile) hdots, Option.bind_eq_bind,
    Option.bind_some, hstem, Path.beforeFirst?_append hcase, Option.pure_def, String.ofList_toList]

end Dump

end CrossEntropy
