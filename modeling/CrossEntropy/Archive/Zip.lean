import CrossEntropy.Archive.Bytes

/-!
# Archives

A file that holds named members, in the zip format and without compression: the members one after
the other, a directory of them, and a record at the end that tells where the directory is.

* `Archive`: named members in order;
* `Zip.checksum`: the cyclic redundancy check of a member;
* `Zip.write`, `Zip.write?`: the bytes of an archive, whatever its size or if it fits;
* `Zip.read?`: the archive that bytes hold.
-/

namespace CrossEntropy

/-- Named members, in order. -/
abbrev Archive := List (String × Bytes)

namespace Zip

/-- One bit of the checksum's polynomial division. -/
def checksumStep (crc : UInt32) : UInt32 :=
  if crc &&& 1 = 1 then (crc >>> 1) ^^^ 0xedb88320 else crc >>> 1

/-- The cyclic redundancy check of bytes. -/
def checksum (bytes : Bytes) : UInt32 :=
  let crc := bytes.foldl (fun crc b => Nat.repeat checksumStep 8 (crc ^^^ b.toUInt32)) 0xffffffff
  crc ^^^ 0xffffffff

/-- What a member starts with. -/
def memberMark : Nat := 0x04034b50

/-- What a directory record starts with. -/
def recordMark : Nat := 0x02014b50

/-- What the end record starts with. -/
def endMark : Nat := 0x06054b50

/-! ## Writing -/

/-- What a member and its directory record have in common: version, flags, method, time, date,
checksum, both sizes, and the length of the name. -/
def commonFields (name content : Bytes) : Bytes :=
  Bytes.little 2 20 ++ Bytes.little 2 0x800 ++ Bytes.little 2 0 ++ Bytes.little 2 0 ++
    Bytes.little 2 0x21 ++ Bytes.little 4 (checksum content).toNat ++
    Bytes.little 4 content.length ++ Bytes.little 4 content.length ++ Bytes.little 2 name.length

/-- A member: its mark, the common fields, its name and its content. -/
def member (name content : Bytes) : Bytes :=
  Bytes.little 4 memberMark ++ commonFields name content ++ Bytes.little 2 0 ++ name ++ content

/-- The directory record of a member at an offset. -/
def record (name content : Bytes) (offset : Nat) : Bytes :=
  Bytes.little 4 recordMark ++ Bytes.little 2 20 ++ commonFields name content ++
    Bytes.little 8 0 ++ Bytes.little 4 0 ++ Bytes.little 4 offset ++ name

/-- The members from an offset on, and their directory records. -/
def sections : Archive → Nat → Bytes × Bytes
  | [], _ => ([], [])
  | (name, content) :: archive, offset =>
    let name := Bytes.ofText name
    let bytes := member name content
    let (members, records) := sections archive (offset + bytes.length)
    (bytes ++ members, record name content offset ++ records)

/-- The bytes of an archive: the members, their directory records and the end record. -/
def write (archive : Archive) : Bytes :=
  let (members, records) := sections archive 0
  members ++ records ++ Bytes.little 4 endMark ++ Bytes.little 4 0 ++
    Bytes.little 2 archive.length ++ Bytes.little 2 archive.length ++
    Bytes.little 4 records.length ++ Bytes.little 4 members.length ++ Bytes.little 2 0

/-- The bytes of an archive, if all lengths and offsets fit their fields. -/
def write? (archive : Archive) : Option Bytes :=
  let bytes := write archive
  if archive.length < 0x10000 ∧ (∀ member ∈ archive, (Bytes.ofText member.1).length < 0x10000) ∧
      bytes.length < 0x100000000 then some bytes
  else none

/-! ## Reading -/

/-- Some bytes from an offset on, if there are as many. -/
def slice? (bytes : Bytes) (offset length : Nat) : Option Bytes :=
  let found := (bytes.drop offset).take length
  if found.length = length then some found else none

/-- A number of a width at an offset. -/
def number? (bytes : Bytes) (offset width : Nat) : Option Nat :=
  (slice? bytes offset width).map Bytes.ofLittle

/-- The length of the end record without its comment. -/
def endLength : Nat := 22

/-- The longest comment that an end record can have. -/
def longestComment : Nat := 65535

/-- The offset of the last end record among `total` bytes, of which those from `offset` on are
left; `found` is the last one before them. -/
def lastEnd? (total : Nat) : Bytes → (offset : Nat) → (found : Option Nat) → Option Nat
  | [], _, found => found
  | b :: bytes, offset, found =>
    let isEnd := total ≤ offset + endLength + longestComment ∧ offset + endLength ≤ total ∧
      (b :: bytes).take 4 = Bytes.little 4 endMark
    lastEnd? total bytes (offset + 1) (if isEnd then some offset else found)

/-- The content of the member whose header is at an offset. -/
def content? (bytes : Bytes) (offset length checksumField : Nat) : Option Bytes := do
  guard ((← number? bytes offset 4) = memberMark)
  let nameLength ← number? bytes (offset + 26) 2
  let extraLength ← number? bytes (offset + 28) 2
  let content ← slice? bytes (offset + 30 + nameLength + extraLength) length
  guard ((checksum content).toNat = checksumField)
  return content

/-- The members of `n` directory records at an offset; `shift` is where the first member
starts. -/
def members? (bytes : Bytes) (shift : Nat) : (n : Nat) → (offset : Nat) → Option Archive
  | 0, _ => some []
  | n + 1, offset => do
    guard ((← number? bytes offset 4) = recordMark)
    guard ((← number? bytes (offset + 10) 2) = 0)
    let checksumField ← number? bytes (offset + 16) 4
    let length ← number? bytes (offset + 20) 4
    let nameLength ← number? bytes (offset + 28) 2
    let extraLength ← number? bytes (offset + 30) 2
    let commentLength ← number? bytes (offset + 32) 2
    let start ← number? bytes (offset + 42) 4
    let name ← slice? bytes (offset + 46) nameLength >>= Bytes.toText?
    let content ← content? bytes (shift + start) length checksumField
    let rest ← members? bytes shift n (offset + 46 + nameLength + extraLength + commentLength)
    return (name, content) :: rest

/-- The archive that bytes hold. -/
def read? (bytes : Bytes) : Option Archive := do
  let position ← lastEnd? bytes.length bytes 0 none
  let commentLength ← number? bytes (position + 20) 2
  guard (position + endLength + commentLength ≤ bytes.length)
  guard ((← number? bytes (position + 4) 2) = (← number? bytes (position + 6) 2))
  let count ← number? bytes (position + 8) 2
  let size ← number? bytes (position + 12) 4
  let offset ← number? bytes (position + 16) 4
  guard (size + offset ≤ position)
  members? bytes (position - size - offset) count (position - size)

end Zip

end CrossEntropy
