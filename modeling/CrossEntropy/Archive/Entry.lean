import CrossEntropy.Archive.Bytes
import CrossEntropy.Archive.Literal
import CrossEntropy.Tensor

/-!
# Stored arrays

An entry of an archive holds one array of 32-bit words: a magic number, a version, a header that
tells element type, memory order and shape, and the words.

* `ElementType`, `MemoryOrder`: what the words stand for, and in which order they come;
* `Entry.write`: the bytes of an array;
* `EntryError`, `Entry.read`: the array that bytes hold, or the first thing that is wrong.
-/

namespace CrossEntropy

/-- What 32-bit words stand for. -/
inductive ElementType
  | float
  | integer
  deriving DecidableEq, Repr

/-- The order of an array's words. -/
inductive MemoryOrder
  | rowMajor
  | columnMajor
  deriving DecidableEq, Repr

/-- Why an entry is not read as an array of the wanted type. -/
inductive EntryError
  /-- It ends before the end of its header. -/
  | truncated
  /-- It has another magic number or version, or its header is not one. -/
  | badHeader
  /-- Its shape has more places than can be stored. -/
  | lengthOverflow
  /-- Its elements are of another type. -/
  | wrongType
  /-- There are fewer words than places. -/
  | missingData
  /-- There are more bytes than places for them. -/
  | extraBytes
  deriving DecidableEq, Repr

namespace Entry

/-- The bytes that every entry starts with. -/
def magic : Bytes := [0x93, 0x4e, 0x55, 0x4d, 0x50, 0x59]

/-- The letter of an element type in a descriptor. -/
def letter : ElementType → Char
  | .float => 'f'
  | .integer => 'i'

/-! ## Writing -/

/-- A shape as a tuple: a single size has a comma after it. -/
def tupleText : Shape → String
  | [size] => "(" ++ size.repr ++ ",)"
  | shape => "(" ++ ", ".intercalate (shape.map Nat.repr) ++ ")"

/-- The dictionary in a header. -/
def dictionaryText (type : ElementType) (order : MemoryOrder) (shape : Shape) : String :=
  let columnMajor := match order with
    | .rowMajor => "False"
    | .columnMajor => "True"
  "\x7b'descr': '<" ++ String.singleton (letter type) ++ "4', 'fortran_order': " ++ columnMajor ++
    ", 'shape': " ++ tupleText shape ++ "\x7d"

/-- The header: a dictionary, at least one space, and a newline. With the ten bytes before it, it
fills a multiple of 64. -/
def header (type : ElementType) (order : MemoryOrder) (shape : Shape) : Bytes :=
  let dictionary := Bytes.ofText (dictionaryText type order shape)
  let padding := 64 - (magic.length + 4 + dictionary.length + 1) % 64
  dictionary ++ List.replicate padding 0x20 ++ [0x0a]

/-- Whether row-major and column-major order are the same for a shape. -/
def isOrderless (shape : Shape) : Bool :=
  Shape.size shape == 0 || (shape.filter (1 < ·)).length ≤ 1

/-- The order in which words are written: row-major where the two orders are the same. -/
def writtenOrder (order : MemoryOrder) (shape : Shape) : MemoryOrder :=
  if isOrderless shape then .rowMajor else order

/-- The words of a tensor in a given order. -/
def words (order : MemoryOrder) (x : Tensor UInt32) : List UInt32 :=
  match order with
  | .rowMajor => x.entries.toList
  | .columnMajor => x.transpose.entries.toList

/-- The bytes of an array whose words lie in a given order. -/
def write (type : ElementType) (order : MemoryOrder) (x : Tensor UInt32) : Bytes :=
  let order := writtenOrder order x.shape
  let header := header type order x.shape
  magic ++ [1, 0] ++ Bytes.little 2 header.length ++ header ++
    (words order x).flatMap fun word => Bytes.little 4 word.toNat

/-! ## Reading -/

/-- What a header says: how elements are stored, the order of the words, and the shape. -/
structure Header where
  descriptor : Literal
  order : MemoryOrder
  shape : Shape

/-- A header that is read key by key. -/
structure PartialHeader where
  descriptor : Option Literal
  order : Option MemoryOrder
  shape : Option Shape

/-- The size that a literal stands for, if it is a 64-bit number. -/
def size? : Literal → Option Nat
  | .integer n => if 0 ≤ n ∧ n < UInt64.size then some n.toNat else none
  | _ => none

/-- Takes in one key with its value. -/
def PartialHeader.add? (h : PartialHeader) : Literal × Literal → Option PartialHeader
  | (.text key, value) =>
    match String.ofList key, value with
    | "descr", value => some { h with descriptor := some value }
    | "fortran_order", .boolean b =>
      some { h with order := some (if b then .columnMajor else .rowMajor) }
    | "shape", .tuple items => do return { h with shape := some (← items.mapM size?) }
    | _, _ => none
  | _ => none

/-- The header that a dictionary stands for. Of repeated keys the last one counts. -/
def Header.ofLiteral? : Literal → Option Header
  | .dictionary items => do
    let h ← items.foldlM PartialHeader.add? ⟨none, none, none⟩
    return ⟨← h.descriptor, ← h.order, ← h.shape⟩
  | _ => none

/-- The first `n` bytes and the rest. -/
def take (n : Nat) (bytes : Bytes) : Except EntryError (Bytes × Bytes) :=
  if n ≤ bytes.length then .ok (bytes.take n, bytes.drop n) else .error .truncated

/-- The text of a header's bytes, less the newline at its end. -/
def headerText? (version : Nat) (bytes : Bytes) : Option String := do
  guard (bytes.getLast? = some 0x0a)
  guard (version = 3 ∨ bytes.all (· < 0x80))
  Bytes.toText? bytes.dropLast

/-- Reads the start of an entry up to the end of its header; also gives the bytes after it. -/
def readHeader (bytes : Bytes) : Except EntryError (Header × Bytes) := do
  let (start, rest) ← take magic.length bytes
  unless start = magic do throw .badHeader
  let (version, rest) ← take 2 rest
  let major ← match version with
    | [1, 0] => pure 1
    | [2, 0] => pure 2
    | [3, 0] => pure 3
    | _ => throw .badHeader
  let (length, rest) ← take (if major = 1 then 2 else 4) rest
  let (header, rest) ← take (Bytes.ofLittle length) rest
  match headerText? major header >>= (Literal.read? ·.toList) >>= Header.ofLiteral? with
  | some h => return (h, rest)
  | none => throw .badHeader

/-- The product of sizes, as long as it stays within 64 bits on the way. -/
def product? (shape : Shape) : Option Nat :=
  shape.foldlM (fun n size => if n * size < UInt64.size then some (n * size) else none) 1

/-- The number of places of a shape, if the bytes of that many words can be counted by a signed
64-bit number. -/
def length? (shape : Shape) : Option Nat := do
  let n ← product? shape
  guard (2 * (4 * n) < UInt64.size)
  return n

/-- How four bytes make a word, by a descriptor of the given element type. -/
def decoder? (type : ElementType) : Literal → Option (Bytes → Nat)
  | .text [order, t, '4'] =>
    if t ≠ letter type then none
    else match order with
      | '<' => some Bytes.ofLittle
      | '>' => some Bytes.ofBig
      | _ => none
  | _ => none

/-- Adds `n` words to those already read; also gives the bytes after them. -/
def readWords (decode : Bytes → Nat) :
    (n : Nat) → Array UInt32 → Bytes → Option (Array UInt32 × Bytes)
  | 0, words, rest => some (words, rest)
  | n + 1, words, a :: b :: c :: d :: rest =>
    readWords decode n (words.push (.ofNat (decode [a, b, c, d]))) rest
  | _ + 1, _, _ => none

/-- The tensor of words in a given order. -/
def arrange? (order : MemoryOrder) (shape : Shape) (words : Array UInt32) :
    Option (Tensor UInt32) :=
  match order with
  | .rowMajor => Tensor.ofArray? shape words
  | .columnMajor => (Tensor.ofArray? shape.reverse words).map Tensor.transpose

/-- The array of an element type that an entry holds. -/
def read (type : ElementType) (bytes : Bytes) : Except EntryError (Tensor UInt32) := do
  let (header, rest) ← readHeader bytes
  let some n := length? header.shape | throw .lengthOverflow
  let some decode := decoder? type header.descriptor | throw .wrongType
  if rest.length < 4 * n then throw .missingData
  let some (words, rest) := readWords decode n #[] rest | throw .missingData
  unless rest = [] do throw .extraBytes
  let some x := arrange? header.order header.shape words | throw .missingData
  return x

end Entry

end CrossEntropy
