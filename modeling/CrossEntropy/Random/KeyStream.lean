import CrossEntropy.Random.Source

/-!
# Seeded key streams

A 64-bit seed is expanded to a key of eight words. The words of the ChaCha blocks with that key,
twelve rounds each, numbered from zero, form one stream.

* `KeyStream.block`: one block of sixteen words;
* `KeyStream.keyOfSeed`: the key of a seed;
* `KeyStream.ofSeed`: the stream of a seed, from its start.
-/

namespace CrossEntropy

/-- A position in the stream of a key: the rest of one block, and the blocks from `counter` on. -/
structure KeyStream where
  key : Vector UInt32 8
  counter : UInt64
  buffer : Vector UInt32 16
  /-- How many words of the buffer have been handed out. -/
  used : Nat

namespace KeyStream

/-- The sixteen words that rounds work on. -/
abbrev State := Vector UInt32 16

/-- A word with its bits rotated to the left. -/
@[inline] def rotate (x : UInt32) (n : UInt32) : UInt32 := x <<< n ||| x >>> (32 - n)

/-- A quarter round on the words of four indices. -/
@[inline] def quarterRound (i j k l : Fin 16) (s : State) : State :=
  let a := s.get i + s.get j
  let d := rotate (s.get l ^^^ a) 16
  let c := s.get k + d
  let b := rotate (s.get j ^^^ c) 12
  let a := a + b
  let d := rotate (d ^^^ a) 8
  let c := c + d
  let b := rotate (b ^^^ c) 7
  (((s.set i a).set j b).set k c).set l d

/-- A round on the columns and one on the diagonals. -/
def doubleRound (s : State) : State :=
  let s := quarterRound 0 4 8 12 s
  let s := quarterRound 1 5 9 13 s
  let s := quarterRound 2 6 10 14 s
  let s := quarterRound 3 7 11 15 s
  let s := quarterRound 0 5 10 15 s
  let s := quarterRound 1 6 11 12 s
  let s := quarterRound 2 7 8 13 s
  quarterRound 3 4 9 14 s

/-- The state that a block starts from: constants, key, block number, and no nonce. -/
def start (key : Vector UInt32 8) (counter : UInt64) : State :=
  #v[0x61707865, 0x3320646e, 0x79622d32, 0x6b206574,
    key[0], key[1], key[2], key[3], key[4], key[5], key[6], key[7],
    counter.toUInt32, (counter >>> 32).toUInt32, 0, 0]

/-- The block of a key with a given number. -/
def block (key : Vector UInt32 8) (counter : UInt64) : State :=
  let first := start key counter
  let mixed := Nat.repeat doubleRound 6 first
  Vector.zipWith (· + ·) mixed first

/-- The key of a seed: eight outputs of a permuted congruential generator. -/
def keyOfSeed (seed : UInt64) : Vector UInt32 8 :=
  (Draw.many 8 nextWord |>.run seed).1
where
  /-- Advances the state, then folds it into a word and rotates that by the top bits. -/
  nextWord : Draw UInt64 UInt32 := fun s =>
    let s := s * 6364136223846793005 + 11634580027462260723
    let x := (((s >>> 18) ^^^ s) >>> 27).toUInt32
    let turn := (s >>> 59).toUInt32
    (x >>> turn ||| x <<< ((32 - turn) % 32), s)

/-- The stream of a seed, from its start. -/
def ofSeed (seed : UInt64) : KeyStream where
  key := keyOfSeed seed
  counter := 0
  buffer := Vector.replicate 16 0
  used := 16

/-- The next word; a new block is made once all words of the last are handed out. -/
def next (k : KeyStream) : UInt32 × KeyStream :=
  if h : k.used < 16 then (k.buffer[k.used], { k with used := k.used + 1 })
  else
    let buffer := block k.key k.counter
    (buffer[0], { k with buffer, counter := k.counter + 1, used := 1 })

/-- The next two words as one, the low half first. -/
def nextPair (k : KeyStream) : UInt64 × KeyStream :=
  let (low, k) := k.next
  let (high, k) := k.next
  (high.toUInt64 <<< 32 ||| low.toUInt64, k)

instance : Source KeyStream where
  next32 := next
  next64 := nextPair

end KeyStream

end CrossEntropy
