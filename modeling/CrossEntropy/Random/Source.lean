/-!
# Sources of random words

A source hands out 32-bit and 64-bit words one after the other.

* `Source σ`: sources with state `σ`;
* `Draw σ α`: a value drawn from such a source;
* `Draw.many`: a number of values, drawn in order;
* `WordCycle`: a source that repeats a list of words.
-/

namespace CrossEntropy

/-- A source of random words with state `σ`. -/
class Source (σ : Type) where
  next32 : σ → UInt32 × σ
  next64 : σ → UInt64 × σ

/-- A value drawn from a source, and the source after it. -/
abbrev Draw (σ α : Type) := StateM σ α

namespace Draw

variable {σ α : Type}

/-- The next 32-bit word. -/
@[inline] def word32 [Source σ] : Draw σ UInt32 := Source.next32

/-- The next 64-bit word. -/
@[inline] def word64 [Source σ] : Draw σ UInt64 := Source.next64

/-- Appends `n` drawn values. -/
@[specialize] def manyOnto (draw : σ → α × σ) : (n : Nat) → Array α → σ → Array α × σ
  | 0, drawn, s => (drawn, s)
  | n + 1, drawn, s =>
    let (a, s) := draw s
    manyOnto draw n (drawn.push a) s

theorem size_manyOnto (draw : σ → α × σ) (n : Nat) (drawn : Array α) (s : σ) :
    (manyOnto draw n drawn s).1.size = drawn.size + n := by
  induction n generalizing drawn s with
  | zero => rfl
  | succ n ih => rw [manyOnto, ih, Array.size_push, Nat.add_assoc, Nat.add_comm 1]

/-- A number of values, drawn in order. -/
@[specialize] def many (n : Nat) (draw : Draw σ α) : Draw σ (Vector α n) := fun s₀ =>
  match h : manyOnto draw.run n #[] s₀ with
  | (drawn, s) => (⟨drawn, by
      have hsize := size_manyOnto draw.run n #[] s₀
      simpa [h] using hsize⟩, s)

/-- The first accepted one of a number of draws. -/
@[specialize] def firstAccepted (fallback : α) (draw : Draw σ (Option α)) :
    (attempts : Nat) → Draw σ α
  | 0 => return fallback
  | attempts + 1 => do
    match ← draw with
    | some a => return a
    | none => firstAccepted fallback draw attempts

/-- After so many rejected draws in a row, which no source of random words produces, drawing
stops. -/
def attempts : Nat := 65536

end Draw

/-- A source that hands out the given words over and over. A draw of 32 bits takes a whole word
and keeps its low half. -/
structure WordCycle where
  words : Array UInt64
  position : Nat

namespace WordCycle

/-- The source that starts with the first of the words. -/
def ofWords (words : List UInt64) : WordCycle := ⟨words.toArray, 0⟩

/-- The word at the position, and the source one position further. -/
def next (c : WordCycle) : UInt64 × WordCycle :=
  (c.words[c.position % c.words.size]?.getD 0, { c with position := c.position + 1 })

instance : Source WordCycle where
  next32 c := let (word, c) := c.next; (word.toUInt32, c)
  next64 c := c.next

end WordCycle

end CrossEntropy
