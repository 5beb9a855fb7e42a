import CrossEntropy.Proofs.Exact
import CrossEntropy.Proofs.Extended
import CrossEntropy.Suite.Generate

/-!
# Ranges of draws

What is drawn lies in the range that was asked for, whatever words the source hands out and however
many of them are rejected. Of numbers that are not integers this is asked, not shown: rounding
decides it.

* `satisfiesM_iff`: what holds of a draw from every source;
* `satisfiesM_firstAccepted`, `satisfiesM_many`, `satisfiesM_tensor`: draws made of others;
* **`satisfiesM_int32`**: integers of a range;
* `Sampled.Within`, `LawfulSampled`: numbers between bounds;
* `Sampled.evenly`, **`within_evenly`**: a way to draw them without rounding.
-/

namespace CrossEntropy

open Scalar

variable {σ α : Type} {p : α → Prop}

theorem satisfiesM_iff {draw : Draw σ α} :
    SatisfiesM p draw ↔ ∀ source, p (draw.run source).1 := by
  simp only [SatisfiesM_StateT_eq, SatisfiesM_Id_eq]

/-! ## Repeated draws -/

theorem satisfiesM_firstAccepted {fallback : α} {draw : Draw σ (Option α)} (hfallback : p fallback)
    (hdraw : SatisfiesM (∀ a ∈ ·, p a) draw) (attempts : Nat) :
    SatisfiesM p (Draw.firstAccepted fallback draw attempts) := by
  induction attempts with
  | zero => exact SatisfiesM.pure hfallback
  | succ attempts ih =>
    refine hdraw.bind fun drawn hdrawn => ?_
    cases drawn with
    | none => exact ih
    | some a => exact SatisfiesM.pure (hdrawn a rfl)

theorem mem_manyOnto {draw : σ → α × σ} (hdraw : ∀ s, p (draw s).1) (n : Nat) {drawn : Array α}
    (hdrawn : ∀ a ∈ drawn, p a) (s : σ) : ∀ a ∈ (Draw.manyOnto draw n drawn s).1, p a := by
  induction n generalizing drawn s with
  | zero => exact hdrawn
  | succ n ih =>
    refine ih (fun a ha => ?_) _
    rcases Array.mem_push.mp ha with ha | rfl
    · exact hdrawn a ha
    · exact hdraw s

theorem satisfiesM_many {draw : Draw σ α} (hdraw : SatisfiesM p draw) (n : Nat) :
    SatisfiesM (fun drawn : Vector α n => ∀ a ∈ drawn, p a) (Draw.many n draw) := by
  rw [satisfiesM_iff] at hdraw ⊢
  intro source a ha
  have hmem : a ∈ (Draw.manyOnto draw.run n #[] source).1 := ha.val
  exact mem_manyOnto hdraw n (by simp) source a hmem

theorem satisfiesM_tensor {draw : Draw σ α} (hdraw : SatisfiesM p draw) (shape : Shape) :
    SatisfiesM (fun x : Tensor α => x.shape = shape ∧ ∀ a ∈ x.entries, p a)
      (Draw.tensor shape draw) :=
  (satisfiesM_many hdraw _).bind fun _ hdrawn => SatisfiesM.pure ⟨rfl, hdrawn⟩

/-! ## Integers -/

section Integers

theorem toNat_sub_eq {a b : BitVec 32} (h : a.toInt < b.toInt) :
    ((b - a).toNat : Int) = b.toInt - a.toInt := by
  simp only [BitVec.toInt_eq_toNat_cond, BitVec.toNat_sub] at *
  have ha := a.isLt
  have hb := b.isLt
  omega

/-- Adding less than the distance of two numbers to the lower one does not overflow. -/
theorem toInt_add_eq {a b k : BitVec 32} (h : a.toInt < b.toInt) (hk : k.toNat < (b - a).toNat) :
    (a + k).toInt = a.toInt + k.toNat := by
  have hsub := toNat_sub_eq h
  simp only [BitVec.toInt_eq_toNat_cond, BitVec.toNat_add] at *
  have ha := a.isLt
  have hb := b.isLt
  omega

/-- An integer is in a range, the upper end excluded. -/
def IntRange.Contains (r : IntRange) (x : Int32) : Prop := r.low ≤ x ∧ x < r.high

theorem IntRange.contains_low (r : IntRange) : r.Contains r.low :=
  ⟨Int32.le_refl _, r.low_lt_high⟩

theorem IntRange.toInt_lt (r : IntRange) : r.low.toInt < r.high.toInt :=
  Int32.lt_iff_toInt_lt.mp r.low_lt_high

/-- The number of values of a range, which is below `2 ^ 32`. -/
theorem IntRange.toNat_width (r : IntRange) :
    ((r.high - r.low).toUInt32.toNat : Int) = r.high.toInt - r.low.toInt :=
  toNat_sub_eq (a := r.low.toBitVec) (b := r.high.toBitVec) r.toInt_lt

theorem IntRange.contains_add (r : IntRange) {k : UInt32}
    (hk : k.toNat < (r.high - r.low).toUInt32.toNat) : r.Contains (r.low + k.toInt32) := by
  have hwidth := r.toNat_width
  have hsum : (r.low + k.toInt32).toInt = r.low.toInt + k.toNat :=
    toInt_add_eq (a := r.low.toBitVec) (b := r.high.toBitVec) (k := k.toBitVec) r.toInt_lt hk
  rw [Contains, Int32.le_iff_toInt_le, Int32.lt_iff_toInt_lt, hsum]
  omega

/-- The high half of the product of a word with a number of values is one of these values. -/
theorem toNat_highHalf_lt (word : UInt32) {values : UInt32} (hvalues : 0 < values.toNat) :
    ((word.toUInt64 * values.toUInt64) >>> 32).toUInt32.toNat < values.toNat := by
  have hproduct : word.toNat * values.toNat < 2 ^ 32 * values.toNat :=
    Nat.mul_lt_mul_of_pos_right word.toNat_lt hvalues
  have hquotient : word.toNat * values.toNat / 2 ^ 32 < values.toNat :=
    Nat.div_lt_of_lt_mul hproduct
  have hlt : values.toNat < 2 ^ 32 := values.toNat_lt
  simp only [UInt64.toNat_toUInt32, UInt64.toNat_shiftRight, UInt64.toNat_mul,
    UInt32.toNat_toUInt64, UInt64.reduceToNat, Nat.reduceMod, Nat.shiftRight_eq_div_pow]
  omega

variable [Source σ]

/-- **A drawn integer is in its range**, also if no word at all has been accepted. -/
theorem satisfiesM_int32 (r : IntRange) : SatisfiesM r.Contains (Draw.int32 r : Draw σ Int32) := by
  have hvalues : 0 < (r.high - r.low).toUInt32.toNat := by
    have hwidth := r.toNat_width
    have hlt := r.toInt_lt
    omega
  refine satisfiesM_firstAccepted r.contains_low ?_ _
  refine SatisfiesM.trivial.bind fun word _ => SatisfiesM.pure fun x hx => ?_
  split at hx
  next =>
    cases hx
    exact r.contains_add (toNat_highHalf_lt word hvalues)
  next => cases hx

end Integers

/-! ## Numbers -/

section Numbers

variable {S : Type} [Scalar S]

/-- Numbers drawn between two bounds are at least the lower and below the upper one. -/
def Sampled.Within [Sampled S] (low high : S) : Prop :=
  ∀ {σ : Type} [Source σ],
    SatisfiesM (fun x => le low x = true ∧ lt x high = true) (Sampled.uniform low high : Draw σ S)

/-- Numbers stay within the two ranges that inputs are drawn from. -/
class LawfulSampled (S : Type) [Scalar S] [Sampled S] : Prop where
  within_unit : Sampled.Within (0 : S) 1
  within_offset : Sampled.Within (Sampled.offset : S) 1

/-- Evenly spaced numbers between bounds, one for each word. Normal samples have a stand-in. -/
@[reducible] def Sampled.evenly (offset : S) : Sampled S where
  uniform low high := do
    return low + (high - low) * (ofNat (← Draw.word32).toNat / ofNat UInt32.size)
  normal := do return ofNat (← Draw.word32).toNat / ofNat UInt32.size
  offset := offset

end Numbers

section Evenly

theorem word_fraction {F : Type} [Field F] [LinearOrder F] [IsStrictOrderedRing F]
    (word : UInt32) :
    0 ≤ (word.toNat : F) / (UInt32.size : ℕ) ∧ (word.toNat : F) / (UInt32.size : ℕ) < 1 := by
  have hsize : (0 : F) < (UInt32.size : ℕ) := by norm_num [UInt32.size]
  exact ⟨div_nonneg (Nat.cast_nonneg _) hsize.le,
    (div_lt_one hsize).mpr (Nat.cast_lt.mpr word.toNat_lt)⟩

theorem between {F : Type} [Field F] [LinearOrder F] [IsStrictOrderedRing F] {low high t : F}
    (h : low < high) (ht : 0 ≤ t ∧ t < 1) :
    low ≤ low + (high - low) * t ∧ low + (high - low) * t < high := by
  have hwidth : 0 < high - low := sub_pos.mpr h
  have hpart : (high - low) * t < high - low := mul_lt_of_lt_one_right hwidth ht.2
  exact ⟨le_add_of_nonneg_right (mul_nonneg hwidth.le ht.1), by linarith⟩

/-- Evenly spaced numbers of an ordered field lie within their bounds. -/
theorem within_evenly {F : Type} [LinearOrder F] [ExactScalar F] [OrderedScalar F] {offset : F}
    {low high : F} (h : low < high) :
    letI := Sampled.evenly offset
    Sampled.Within low high := by
  let := Sampled.evenly offset
  refine fun {σ} _ => SatisfiesM.trivial.bind fun word _ => SatisfiesM.pure ?_
  have hofNat (n : Nat) : (ofNat n : F) = n := ExactScalar.ofNat_eq_cast n
  rw [OrderedScalar.le_iff, OrderedScalar.lt_iff, hofNat, hofNat]
  exact between h (word_fraction word)

instance : Sampled Extended := .evenly (.finite (1 / 100))

theorem within_finite {p q : ℚ} (h : p < q) : Sampled.Within (Extended.finite p) (.finite q) := by
  refine fun {σ} _ => SatisfiesM.trivial.bind fun word _ => SatisfiesM.pure ?_
  have hbetween := between h (word_fraction (F := ℚ) word)
  have hfraction : (ofNat word.toNat / ofNat UInt32.size : Extended) =
      .finite (word.toNat / (UInt32.size : ℕ)) := Extended.div_finite (by norm_num [UInt32.size])
  have hdrawn : Extended.finite p + (.finite q - .finite p) *
      (ofNat word.toNat / ofNat UInt32.size) =
        .finite (p + (q - p) * (word.toNat / (UInt32.size : ℕ))) := by
    rw [hfraction, sub_eq_add_neg]
    rfl
  rw [hdrawn]
  exact ⟨decide_eq_true hbetween.1, Extended.lt_finite.trans (decide_eq_true hbetween.2)⟩

instance : LawfulSampled Extended where
  within_unit := within_finite (by norm_num)
  within_offset := within_finite (by norm_num)

end Evenly

end CrossEntropy
