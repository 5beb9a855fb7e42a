import Mathlib
import CrossEntropy.Decimal

/-!
# What numerals can be read

* `IsNumeral`: digits and the number they spell, by place value;
* `isNumeral_iff`: it is the number that folding over the digits gives;
* `exists_sign`, `unsignedDigits_signed`: the sign in front of the digits;
* **`parseWord?_eq_some_iff`**: the texts from which a 64-bit number is read.
-/

namespace CrossEntropy

/-- Decimal digits spell a number: a single one its value, each further one ten times as much as
those before it and its value. -/
inductive IsNumeral : List Char → Nat → Prop
  | digit {c : Char} (hc : c.isDigit = true) : IsNumeral [c] (c.toNat - '0'.toNat)
  | snoc {digits : List Char} {value : Nat} {c : Char} (h : IsNumeral digits value)
      (hc : c.isDigit = true) : IsNumeral (digits ++ [c]) (10 * value + (c.toNat - '0'.toNat))

theorem ofDigitChars_snoc (digits : List Char) (c : Char) :
    Nat.ofDigitChars 10 (digits ++ [c]) 0 =
      10 * Nat.ofDigitChars 10 digits 0 + (c.toNat - '0'.toNat) := by
  rw [Nat.ofDigitChars_append, Nat.ofDigitChars_cons, Nat.ofDigitChars_nil]

theorem isNumeral_iff {digits : List Char} {value : Nat} :
    IsNumeral digits value ↔
      digits ≠ [] ∧ (∀ c ∈ digits, c.isDigit = true) ∧ Nat.ofDigitChars 10 digits 0 = value := by
  constructor
  · intro h
    induction h with
    | @digit c hc =>
      refine ⟨List.cons_ne_nil c [], by simpa using hc, ?_⟩
      rw [Nat.ofDigitChars_cons, Nat.ofDigitChars_nil, Nat.mul_zero, Nat.zero_add]
    | @snoc digits value c h hc ih =>
      obtain ⟨-, hdigits, rfl⟩ := ih
      refine ⟨by simp, fun x hx => ?_, ofDigitChars_snoc digits c⟩
      obtain hx | rfl := List.mem_append.mp hx |>.imp_right List.mem_singleton.mp
      · exact hdigits x hx
      · exact hc
  · rintro ⟨hne, hdigits, rfl⟩
    -- digits come last, so the induction takes them off the end
    induction digits using List.reverseRecOn with
    | nil => exact absurd rfl hne
    | append_singleton digits c ih =>
      have hc : c.isDigit = true := hdigits c (by simp)
      rw [ofDigitChars_snoc]
      by_cases hnil : digits = []
      · subst hnil
        simpa using IsNumeral.digit hc
      · exact .snoc (ih hnil fun x hx => hdigits x (List.mem_append_left _ hx)) hc

/-! ## Signs -/

theorem exists_sign (text : String) : ∃ sign, (sign = "" ∨ sign = "+") ∧
    text = sign ++ String.ofList (unsignedDigits text.toList) := by
  have hsigned {sign : String} (h : text.toList = sign.toList ++ unsignedDigits text.toList) :
      text = sign ++ String.ofList (unsignedDigits text.toList) := by
    rwa [← String.toList_inj, String.toList_append, String.toList_ofList]
  by_cases hplus : ∃ digits, text.toList = '+' :: digits
  · obtain ⟨digits, htext⟩ := hplus
    refine ⟨"+", .inr rfl, hsigned ?_⟩
    rw [htext]
    rfl
  · refine ⟨"", .inl rfl, hsigned ?_⟩
    rw [unsignedDigits]
    · rfl
    · exact fun digits htext => hplus ⟨digits, htext⟩

theorem unsignedDigits_signed {sign : String} {digits : List Char} {value : Nat}
    (hsign : sign = "" ∨ sign = "+") (h : IsNumeral digits value) :
    unsignedDigits (sign ++ String.ofList digits).toList = digits := by
  rw [String.toList_append, String.toList_ofList]
  obtain rfl | rfl := hsign
  · show unsignedDigits digits = digits
    rw [unsignedDigits]
    rintro rest rfl
    -- a plus sign is no digit
    have hplus := (isNumeral_iff.mp h).2.1 '+' List.mem_cons_self
    cases hplus
  · rfl

/-! ## Words -/

theorem parseWord?_eq_some_iff_isNumeral {text : String} {n : UInt64} :
    parseWord? text = some n ↔ IsNumeral (unsignedDigits text.toList) n.toNat := by
  rw [isNumeral_iff]
  unfold parseWord?
  generalize unsignedDigits text.toList = digits
  simp only [List.all_eq_true]
  split_ifs with h
  · obtain ⟨hne, hdigits, hlt⟩ := h
    rw [Option.some_inj, ← UInt64.toNat_inj, UInt64.toNat_ofNat_of_lt' hlt]
    exact ⟨fun hvalue => ⟨hne, hdigits, hvalue⟩, fun hvalue => hvalue.2.2⟩
  · refine iff_of_false (by simp) ?_
    rintro ⟨hne, hdigits, hvalue⟩
    exact h ⟨hne, hdigits, hvalue ▸ n.toNat_lt⟩

/-- **A 64-bit number is read from the numerals for it**, with a plus sign or without one. -/
theorem parseWord?_eq_some_iff {text : String} {n : UInt64} :
    parseWord? text = some n ↔ ∃ sign digits, (sign = "" ∨ sign = "+") ∧
      text = sign ++ String.ofList digits ∧ IsNumeral digits n.toNat := by
  rw [parseWord?_eq_some_iff_isNumeral]
  constructor
  · intro h
    obtain ⟨sign, hsign, htext⟩ := exists_sign text
    exact ⟨sign, _, hsign, htext, h⟩
  · rintro ⟨sign, digits, hsign, rfl, h⟩
    rwa [unsignedDigits_signed hsign h]

end CrossEntropy
