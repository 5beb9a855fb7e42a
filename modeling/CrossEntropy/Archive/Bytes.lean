/-!
# Numbers as bytes

* `Bytes.little`, `Bytes.ofLittle`: a number as bytes, the lowest first, and back;
* **`Bytes.ofLittle_little`**: a number that fits is read back;
* `Bytes.ofText`, `Bytes.toText?`: text in its byte encoding.
-/

namespace CrossEntropy

/-- The contents of a file. -/
abbrev Bytes := List UInt8

namespace Bytes

/-- The lowest `width` bytes of a number, the lowest first. -/
def little : (width : Nat) → Nat → Bytes
  | 0, _ => []
  | width + 1, n => .ofNat (n % 256) :: little width (n / 256)

/-- The number whose bytes are given, the lowest first. -/
def ofLittle : Bytes → Nat
  | [] => 0
  | b :: bytes => b.toNat + 256 * ofLittle bytes

/-- The number whose bytes are given, the highest first. -/
def ofBig (bytes : Bytes) : Nat := ofLittle bytes.reverse

/-- A text in its byte encoding. -/
def ofText (text : String) : Bytes := text.toUTF8.data.toList

/-- The text of bytes, if they encode one. -/
def toText? (bytes : Bytes) : Option String := String.fromUTF8? ⟨bytes.toArray⟩

@[simp] theorem length_little (width n : Nat) : (little width n).length = width := by
  induction width generalizing n with
  | zero => rfl
  | succ width ih => simp [little, ih]

/-- **A number that fits is read back.** -/
theorem ofLittle_little {width n : Nat} (h : n < Nat.pow 256 width) :
    ofLittle (little width n) = n := by
  induction width generalizing n with
  | zero => simpa [little, ofLittle, eq_comm] using h
  | succ width ih =>
    have hdiv : n / 256 < Nat.pow 256 width :=
      Nat.div_lt_of_lt_mul (Nat.mul_comm (Nat.pow 256 width) 256 ▸ h)
    have hbyte : (UInt8.ofNat (n % 256)).toNat = n % 256 := by simp
    rw [little, ofLittle, ih hdiv, hbyte]
    omega

end Bytes

end CrossEntropy
