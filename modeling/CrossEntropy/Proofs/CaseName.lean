import CrossEntropy.Proofs.Numeral
import CrossEntropy.Suite.Case

/-!
# Names of cases

* `afterStem?_append`, `afterStem?_eq_some_iff`: what follows a stem is found again;
* `ofName?_name`, `name_injective`: the case of a case's name;
* `hyphen_not_mem_name`: names are free of what separates the parts of a file name;
* `Spells`, `ofName?_eq_some_iff`: the texts that a case is read from;
* **`names_faithful`**: names encode cases faithfully, and nothing else is read as a case.
-/

namespace CrossEntropy.Case

theorem afterStem?_append (stem rest : List Char) : afterStem? stem (stem ++ rest) = some rest := by
  induction stem with
  | nil => rfl
  | cons c stem ih => rw [List.cons_append, afterStem?, if_pos rfl, ih]

theorem toList_name_softmaxAxis (axis : UInt64) :
    (softmaxAxis axis).name.toList = axisStem.toList ++ (wordText axis).toList :=
  String.toList_append

/-- **The case of a case's name is that case**, for every axis. -/
theorem ofName?_name (case : Case) : ofName? case.name = some case := by
  cases case with
  | softmaxAxis axis =>
    rw [ofName?, toList_name_softmaxAxis, afterStem?_append]
    simp only [String.ofList_toList, parseWord?_repr, Option.map_some]
  | _ => decide +kernel

theorem not_mem_wordText {c : Char} (hc : c.isDigit = false) (n : UInt64) :
    c ∉ (wordText n).toList := by
  intro h
  rw [wordText, Nat.repr_eq_ofList_toDigits, String.toList_ofList] at h
  have hdigit := Nat.isDigit_of_mem_toDigits (by decide) (by decide) h
  rw [hc] at hdigit
  cases hdigit

theorem hyphen_not_mem_name (case : Case) : '-' ∉ case.name.toList := by
  cases case with
  | softmaxAxis axis =>
    rw [toList_name_softmaxAxis, List.mem_append, not_or]
    exact ⟨by decide +kernel, not_mem_wordText rfl axis⟩
  | _ => decide +kernel

theorem name_injective : Function.Injective name := by
  intro case case' h
  have hcase := ofName?_name case
  rw [h, ofName?_name] at hcase
  exact (Option.some.inj hcase).symm

/-! ## What is read as a case -/

theorem afterStem?_eq_some_iff {stem text rest : List Char} :
    afterStem? stem text = some rest ↔ text = stem ++ rest := by
  constructor
  · intro h
    induction stem generalizing text with
    | nil => exact Option.some.inj h
    | cons s stem ih => cases text with
      | nil => cases h
      | cons c text =>
        rw [afterStem?] at h
        split_ifs at h with hs
        rw [hs, ih h, List.cons_append]
  · rintro rfl
    exact afterStem?_append stem rest

/-- The names of the cases without an axis. -/
def fixedNames : List (String × Case) :=
  [("softmax", softmax), ("softmax_with_loss", softmaxWithLoss),
    ("soft_label_softmax_with_loss", softLabelSoftmaxWithLoss),
    ("spatial_softmax_with_loss", spatialSoftmaxWithLoss),
    ("large_spatial_softmax_with_loss", largeSpatialSoftmaxWithLoss)]

/-- A text spells a case: it is one of the fixed names, or it gives an axis by a numeral, which may
have a plus sign and leading zeros. -/
inductive Spells : String → Case → Prop
  | fixed {text : String} {case : Case} (h : (text, case) ∈ fixedNames) : Spells text case
  | axis {sign : String} {digits : List Char} {value : Nat} (hsign : sign = "" ∨ sign = "+")
      (hdigits : IsNumeral digits value) (hvalue : value < 2 ^ 64) :
      Spells ("softmax_axis_" ++ (sign ++ String.ofList digits)) (softmaxAxis (.ofNat value))

theorem mem_fixedNames_iff {text : String} {case : Case} :
    (text, case) ∈ fixedNames ↔ case.name = text ∧ ∀ axis, case ≠ softmaxAxis axis := by
  cases case <;> simp [fixedNames, name, eq_comm]

theorem ofName?_stem (numeral : String) :
    ofName? ("softmax_axis_" ++ numeral) = (parseWord? numeral).map softmaxAxis := by
  have htext : ("softmax_axis_" ++ numeral).toList = axisStem.toList ++ numeral.toList :=
    String.toList_append
  rw [ofName?, htext, afterStem?_append]
  simp only [String.ofList_toList]

/-- **A case is read from the texts that spell it.** -/
theorem ofName?_eq_some_iff {text : String} {case : Case} :
    ofName? text = some case ↔ Spells text case := by
  constructor
  · intro h
    cases hstem : afterStem? axisStem.toList text.toList with
    | some rest =>
      obtain rfl : text = "softmax_axis_" ++ String.ofList rest := by
        rw [← String.toList_inj, afterStem?_eq_some_iff.mp hstem]
        simp [axisStem]
      rw [ofName?_stem, Option.map_eq_some_iff] at h
      obtain ⟨axis, haxis, rfl⟩ := h
      obtain ⟨sign, digits, hsign, hrest, hdigits⟩ := parseWord?_eq_some_iff.mp haxis
      rw [hrest, ← axis.ofNat_toNat]
      exact .axis hsign hdigits axis.toNat_lt
    | none =>
      rw [ofName?, hstem] at h
      have hname : case.name = text := by simpa using List.find?_some h
      refine .fixed (mem_fixedNames_iff.mpr ⟨hname, ?_⟩)
      -- the names of axes have the stem
      rintro axis rfl
      rw [← hname, toList_name_softmaxAxis, afterStem?_append] at hstem
      cases hstem
  · intro h
    cases h with
    | fixed h =>
      obtain ⟨rfl, -⟩ := mem_fixedNames_iff.mp h
      exact ofName?_name case
    | @axis sign digits value hsign hdigits hvalue =>
      have hword : parseWord? (sign ++ String.ofList digits) = some (.ofNat value) := by
        refine parseWord?_eq_some_iff.mpr ⟨sign, digits, hsign, rfl, ?_⟩
        rwa [UInt64.toNat_ofNat_of_lt' hvalue]
      rw [ofName?_stem, hword, Option.map_some]

/-- **Names encode cases faithfully.** Every case is read from its name, different cases have
different names, and no name has a hyphen. A text is read as a case exactly if it is one of the five
fixed names, or the stem with a plus sign or none and digits whose value fits 64 bits, and then it
is that case. -/
theorem names_faithful :
    (∀ case : Case, ofName? case.name = some case) ∧ Function.Injective name ∧
      (∀ case : Case, '-' ∉ case.name.toList) ∧
      ∀ (text : String) (case : Case), ofName? text = some case ↔ Spells text case :=
  ⟨ofName?_name, name_injective, hyphen_not_mem_name, fun _ _ => ofName?_eq_some_iff⟩

example : ofName? "softmax_axis_+007" = some (softmaxAxis 7) := by decide +kernel

end CrossEntropy.Case
