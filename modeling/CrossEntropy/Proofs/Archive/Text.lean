import Mathlib
import CrossEntropy.Archive.Bytes

/-!
# Text as bytes

* **`toText?_ofText`**: a text is read back from its bytes;
* `isAscii`: texts that take one byte for each character;
* `ofText_ascii`, `lt_of_mem_ofText`: their bytes.
-/

namespace CrossEntropy.Bytes

theorem ofText_eq (text : String) : ofText text = text.toList.flatMap String.utf8EncodeChar := by
  rw [ofText, String.toUTF8_eq_toByteArray, ← String.utf8Encode_toList, List.utf8Encode,
    List.toList_data_toByteArray]

theorem ofText_append (s t : String) : ofText (s ++ t) = ofText s ++ ofText t := by
  rw [ofText_eq, ofText_eq, ofText_eq, String.toList_append, List.flatMap_append]

/-- **A text is read back from its bytes.** -/
theorem toText?_ofText (text : String) : toText? (ofText text) = some text := by
  have hbytes : (⟨(ofText text).toArray⟩ : ByteArray) = text.toByteArray := by
    rw [ofText, String.toUTF8_eq_toByteArray, Array.toArray_toList]
  rw [toText?, hbytes, String.fromUTF8?, dif_pos text.isValidUTF8]
  rfl

/-! ## One byte for each character -/

/-- Whether every character takes one byte. -/
def isAscii (cs : List Char) : Bool := cs.all fun c => c.val ≤ 0x7f

theorem isAscii_append (cs ds : List Char) : isAscii (cs ++ ds) = (isAscii cs && isAscii ds) :=
  List.all_append

theorem isAscii_cons (c : Char) (cs : List Char) :
    isAscii (c :: cs) = (decide (c.val ≤ 0x7f) && isAscii cs) :=
  List.all_cons

theorem isAscii_replicate (n : Nat) {c : Char} (hc : c.val ≤ 0x7f) :
    isAscii (List.replicate n c) = true := by
  simp [isAscii, hc]

theorem isAscii_iff {cs : List Char} : isAscii cs = true ↔ ∀ c ∈ cs, c.val ≤ 0x7f := by
  simp [isAscii]

theorem le_of_isDigit {c : Char} (hc : c.isDigit = true) : c.val ≤ 0x7f := by
  simp only [Char.isDigit, Bool.and_eq_true, decide_eq_true_eq] at hc
  exact UInt32.le_trans hc.2 (by decide)

theorem isAscii_toDigits (n : Nat) : isAscii (Nat.toDigits 10 n) = true :=
  isAscii_iff.mpr fun _ hc => le_of_isDigit (Nat.isDigit_of_mem_toDigits (by decide) (by decide) hc)

theorem ofText_ascii {cs : List Char} (hcs : isAscii cs = true) :
    ofText (String.ofList cs) = cs.map fun c => c.val.toUInt8 := by
  rw [ofText_eq, String.toList_ofList]
  induction cs with
  | nil => rfl
  | cons c cs ih =>
    rw [isAscii_iff] at hcs ih
    have hsize : c.utf8Size = 1 := if_pos (hcs c List.mem_cons_self)
    rw [List.flatMap_cons, List.map_cons, String.utf8EncodeChar_eq_singleton hsize,
      ih fun d hd => hcs d (List.mem_cons_of_mem c hd)]
    rfl

theorem toUInt8_lt {c : Char} (hc : c.val ≤ 0x7f) : c.val.toUInt8 < 0x80 := by
  have hc : c.val.toNat ≤ 127 := hc
  rw [UInt8.lt_iff_toNat_lt, UInt32.toNat_toUInt8]
  exact Nat.lt_of_le_of_lt (Nat.mod_le _ _) (Nat.lt_succ_of_le hc)

theorem lt_of_mem_ofText {cs : List Char} (hcs : isAscii cs = true) {b : UInt8}
    (hb : b ∈ ofText (String.ofList cs)) : b < 0x80 := by
  rw [ofText_ascii hcs] at hb
  obtain ⟨c, hc, rfl⟩ := List.mem_map.mp hb
  exact toUInt8_lt (isAscii_iff.mp hcs c hc)

end CrossEntropy.Bytes
