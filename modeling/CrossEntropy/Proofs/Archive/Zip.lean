import CrossEntropy.Proofs.Archive.Text
import CrossEntropy.Archive.Zip

/-!
# Archives that are read back

An archive is read by offsets. What stands where in the bytes of an archive is enough to know what
is read.

* `At`: some bytes stand at an offset of others;
* `fields`, **`number?_field`**: numbers of given widths one after the other, and each of them;
* `members?_eq`: the members, by induction over the directory;
* `lastEnd?_eq`: the end record;
* **`read?_write?`**: the archive.
-/

namespace CrossEntropy.Zip

/-! ## Places -/

/-- `part` stands in `bytes` at an offset. -/
def At (bytes : Bytes) (offset : Nat) (part : Bytes) : Prop :=
  ∃ before after, bytes = before ++ part ++ after ∧ before.length = offset

namespace At

variable {bytes part first second : Bytes} {offset : Nat}

theorem left (h : At bytes offset (first ++ second)) : At bytes offset first := by
  obtain ⟨before, after, rfl, hlength⟩ := h
  exact ⟨before, second ++ after, by simp, hlength⟩

theorem right (h : At bytes offset (first ++ second)) :
    At bytes (offset + first.length) second := by
  obtain ⟨before, after, rfl, hlength⟩ := h
  exact ⟨before ++ first, after, by simp, by rw [List.length_append, hlength]⟩

theorem add_length_le (h : At bytes offset part) : offset + part.length ≤ bytes.length := by
  obtain ⟨before, after, rfl, rfl⟩ := h
  simp only [List.length_append]
  omega

end At

theorem slice?_at {bytes part : Bytes} {offset : Nat} (h : At bytes offset part) :
    slice? bytes offset part.length = some part := by
  obtain ⟨before, after, rfl, rfl⟩ := h
  simp [slice?]

theorem number?_at {bytes : Bytes} {offset width n : Nat}
    (h : At bytes offset (Bytes.little width n)) (hn : n < Nat.pow 256 width) :
    number? bytes offset width = some n := by
  have hslice := slice?_at h
  rw [Bytes.length_little] at hslice
  rw [number?, hslice, Option.map_some, Bytes.ofLittle_little hn]

/-- Numbers of given widths, one after the other. -/
def fields (numbers : List (Nat × Nat)) : Bytes :=
  numbers.flatMap fun (width, n) => Bytes.little width n

/-- The bytes that numbers take. -/
def widths : List (Nat × Nat) → Nat
  | [] => 0
  | (width, _) :: numbers => width + widths numbers

theorem length_fields (numbers : List (Nat × Nat)) : (fields numbers).length = widths numbers := by
  induction numbers with
  | nil => rfl
  | cons field numbers ih =>
    rw [fields, List.flatMap_cons, List.length_append, Bytes.length_little, widths]
    exact congrArg (field.1 + ·) ih

/-- **Each of several numbers is read at its place**, which the widths before it tell. -/
theorem number?_field {bytes rest : Bytes} {offset : Nat} {numbers : List (Nat × Nat)}
    (h : At bytes offset (fields numbers ++ rest)) (i : Nat) {place width n : Nat}
    (hi : numbers[i]? = some (width, n)) (hplace : widths (numbers.take i) = place)
    (hn : n < Nat.pow 256 width) : number? bytes (offset + place) width = some n := by
  subst hplace
  induction numbers generalizing offset i with
  | nil => cases hi
  | cons field numbers ih =>
    rw [fields, List.flatMap_cons, List.append_assoc] at h
    cases i with
    | zero =>
      cases hi
      exact number?_at h.left hn
    | succ i =>
      have hnext := h.right
      rw [Bytes.length_little] at hnext
      rw [List.take_succ_cons, widths, ← Nat.add_assoc]
      exact ih hnext i hi

theorem at_rest {bytes rest : Bytes} {offset : Nat} {numbers : List (Nat × Nat)}
    (h : At bytes offset (fields numbers ++ rest)) : At bytes (offset + widths numbers) rest := by
  rw [← length_fields]
  exact h.right

/-! ## Members -/

/-- The numbers of a member's header. -/
def memberFields (name content : Bytes) : List (Nat × Nat) :=
  [(4, memberMark), (2, 20), (2, 0x800), (2, 0), (2, 0), (2, 0x21),
    (4, (checksum content).toNat), (4, content.length), (4, content.length), (2, name.length),
    (2, 0)]

/-- The numbers of a directory record. -/
def recordFields (name content : Bytes) (offset : Nat) : List (Nat × Nat) :=
  [(4, recordMark), (2, 20), (2, 20), (2, 0x800), (2, 0), (2, 0), (2, 0x21),
    (4, (checksum content).toNat), (4, content.length), (4, content.length), (2, name.length),
    (2, 0), (2, 0), (2, 0), (2, 0), (4, 0), (4, offset)]

theorem widths_memberFields (name content : Bytes) :
    widths (memberFields name content) = 30 := by
  simp only [memberFields, widths]

theorem widths_recordFields (name content : Bytes) (offset : Nat) :
    widths (recordFields name content offset) = 46 := by
  simp only [recordFields, widths]

theorem member_eq (name content : Bytes) :
    member name content = fields (memberFields name content) ++ (name ++ content) := by
  simp only [member, commonFields, fields, memberFields, List.flatMap_cons, List.flatMap_nil,
    List.append_assoc, List.append_nil]

theorem record_eq (name content : Bytes) (offset : Nat) :
    record name content offset = fields (recordFields name content offset) ++ name := by
  have hzeros : Bytes.little 8 0 =
      Bytes.little 2 0 ++ Bytes.little 2 0 ++ Bytes.little 2 0 ++ Bytes.little 2 0 := rfl
  simp only [record, commonFields, fields, recordFields, hzeros, List.flatMap_cons,
    List.flatMap_nil, List.append_assoc, List.append_nil]

/-- **The content of a member is read back.** -/
theorem content?_at {bytes name content : Bytes} {offset : Nat}
    (h : At bytes offset (member name content)) (hname : name.length < 0x10000) :
    content? bytes offset content.length (checksum content).toNat = some content := by
  rw [member_eq] at h
  have hmark : number? bytes offset 4 = some memberMark :=
    number?_field h 0 rfl rfl (by decide)
  have hnameLength : number? bytes (offset + 26) 2 = some name.length :=
    number?_field h 9 rfl (by simp [memberFields, widths]) hname
  have hextraLength : number? bytes (offset + 28) 2 = some 0 :=
    number?_field h 10 rfl (by simp [memberFields, widths]) (by decide)
  have hcontent : slice? bytes (offset + 30 + name.length) content.length = some content := by
    have hrest := at_rest h
    rw [widths_memberFields] at hrest
    exact slice?_at hrest.right
  simp [content?, hmark, hnameLength, hextraLength, hcontent, guard]

theorem toNat_lt_pow (word : UInt32) : word.toNat < Nat.pow 256 4 := word.toNat_lt

/-- One step through the directory: the record at `offset` and the member at `start` give one
member, and the next record is behind the first. -/
theorem members?_succ {bytes content : Bytes} {name : String} {n offset start : Nat}
    (hrecord : At bytes offset (record (Bytes.ofText name) content start))
    (hmember : At bytes start (member (Bytes.ofText name) content))
    (hname : (Bytes.ofText name).length < 0x10000) (hbytes : bytes.length < 0x100000000) :
    members? bytes 0 (n + 1) offset =
      (members? bytes 0 n (offset + (record (Bytes.ofText name) content start).length)).map
        ((name, content) :: ·) := by
  have hinside := hmember.add_length_le
  have hlengths : content.length < 0x100000000 ∧ start < 0x100000000 := by
    rw [member_eq, List.length_append, List.length_append] at hinside
    omega
  have hcontent := content?_at hmember hname
  have hnext : offset + (record (Bytes.ofText name) content start).length =
      offset + 46 + (Bytes.ofText name).length + 0 + 0 := by
    rw [record_eq, List.length_append, length_fields, widths_recordFields]
    omega
  rw [record_eq] at hrecord
  have htext : slice? bytes (offset + 46) (Bytes.ofText name).length =
      some (Bytes.ofText name) := by
    have hrest := at_rest hrecord
    rw [widths_recordFields] at hrest
    exact slice?_at hrest
  have hmark : number? bytes offset 4 = some recordMark :=
    number?_field hrecord 0 rfl rfl (by decide)
  have hmethod : number? bytes (offset + 10) 2 = some 0 :=
    number?_field hrecord 4 rfl (by simp [recordFields, widths]) (by decide)
  have hchecksum : number? bytes (offset + 16) 4 = some (checksum content).toNat :=
    number?_field hrecord 7 rfl (by simp [recordFields, widths]) (toNat_lt_pow _)
  have hlength : number? bytes (offset + 20) 4 = some content.length :=
    number?_field hrecord 8 rfl (by simp [recordFields, widths]) hlengths.1
  have hnameLength : number? bytes (offset + 28) 2 = some (Bytes.ofText name).length :=
    number?_field hrecord 10 rfl (by simp [recordFields, widths]) hname
  have hextraLength : number? bytes (offset + 30) 2 = some 0 :=
    number?_field hrecord 11 rfl (by simp [recordFields, widths]) (by decide)
  have hcommentLength : number? bytes (offset + 32) 2 = some 0 :=
    number?_field hrecord 12 rfl (by simp [recordFields, widths]) (by decide)
  have hstart : number? bytes (offset + 42) 4 = some start :=
    number?_field hrecord 16 rfl (by simp [recordFields, widths]) hlengths.2
  rw [hnext, members?]
  simp only [hmark, hmethod, hchecksum, hlength, hnameLength, hextraLength, hcommentLength, hstart,
    htext, hcontent, Bytes.toText?_ofText, Option.bind_eq_bind, Option.bind_some, guard,
    Nat.zero_add, if_true]
  cases members? bytes 0 n (offset + 46 + (Bytes.ofText name).length + 0 + 0) <;> rfl

/-- **The members are read back**, from the sections that are written for them. -/
theorem members?_eq {bytes : Bytes} {archive : Archive} {offset start : Nat}
    (hrecords : At bytes offset (sections archive start).2)
    (hmembers : At bytes start (sections archive start).1)
    (hnames : ∀ member ∈ archive, (Bytes.ofText member.1).length < 0x10000)
    (hbytes : bytes.length < 0x100000000) :
    members? bytes 0 archive.length offset = some archive := by
  induction archive generalizing offset start with
  | nil => rfl
  | cons first archive ih =>
    obtain ⟨name, content⟩ := first
    have hname := hnames (name, content) List.mem_cons_self
    rw [List.length_cons, members?_succ hrecords.left hmembers.left hname hbytes,
      ih hrecords.right hmembers.right fun member h => hnames member (List.mem_cons_of_mem _ h)]
    rfl

/-! ## The end record -/

theorem lastEnd?_late {total offset : Nat} (h : total < offset + endLength) (bytes : Bytes)
    (found : Option Nat) : lastEnd? total bytes offset found = found := by
  induction bytes generalizing offset with
  | nil => rfl
  | cons b bytes ih =>
    rw [lastEnd?, if_neg fun hend => absurd hend.2.1 (by omega)]
    exact ih (by omega)

/-- **The end record is found where it is**, whatever stands before it. -/
theorem lastEnd?_eq {total offset : Nat} {before rest : Bytes}
    (htotal : total = offset + before.length + endLength) (found : Option Nat) :
    lastEnd? total (before ++ (Bytes.little 4 endMark ++ rest)) offset found =
      some (offset + before.length) := by
  induction before generalizing offset found with
  | nil =>
    have hlate : total < offset + 1 + endLength := by
      rw [htotal, List.length_nil]
      omega
    have hend : total ≤ offset + endLength + longestComment ∧ offset + endLength ≤ total := by
      rw [htotal, List.length_nil]
      omega
    change lastEnd? total (0x50 :: ([0x4b, 0x05, 0x06] ++ rest)) offset found = some offset
    rw [lastEnd?, if_pos ⟨hend.1, hend.2, rfl⟩, lastEnd?_late hlate]
  | cons b before ih =>
    rw [List.length_cons] at htotal ⊢
    rw [List.cons_append, lastEnd?, ih (by omega)]
    exact congrArg some (by omega)

/-! ## Archives -/

/-- The numbers of the end record. -/
def endFields (count recordsLength membersLength : Nat) : List (Nat × Nat) :=
  [(4, endMark), (2, 0), (2, 0), (2, count), (2, count), (4, recordsLength), (4, membersLength),
    (2, 0)]

theorem write_eq (archive : Archive) :
    write archive = (sections archive 0).1 ++ (sections archive 0).2 ++ fields (endFields
      archive.length (sections archive 0).2.length (sections archive 0).1.length) := by
  have hzeros : Bytes.little 4 0 = Bytes.little 2 0 ++ Bytes.little 2 0 := rfl
  simp only [write, fields, endFields, hzeros, List.flatMap_cons, List.flatMap_nil,
    List.append_assoc, List.append_nil]

theorem read?_eq {bytes members records : Bytes} {count : Nat}
    (hbytes : bytes =
      members ++ records ++ fields (endFields count records.length members.length))
    (hcount : count < 0x10000) (hlt : bytes.length < 0x100000000) :
    read? bytes = members? bytes 0 count members.length := by
  have hwidths : widths (endFields count records.length members.length) = endLength := by
    simp only [endFields, widths, endLength]
  have hlength : bytes.length = members.length + records.length + endLength := by
    rw [hbytes, List.length_append, List.length_append, length_fields, hwidths]
  have hend : At bytes (members.length + records.length)
      (fields (endFields count records.length members.length) ++ []) :=
    ⟨members ++ records, [], by simp [hbytes], List.length_append⟩
  have hlast : lastEnd? bytes.length bytes 0 none = some (members.length + records.length) := by
    have htotal : bytes.length = 0 + (members ++ records).length + endLength := by
      rw [hlength, List.length_append, Nat.zero_add]
    refine (congrArg (lastEnd? bytes.length · 0 none) hbytes).trans
      ((lastEnd?_eq htotal none).trans ?_)
    rw [List.length_append, Nat.zero_add]
  have hcomment : number? bytes (members.length + records.length + 20) 2 = some 0 :=
    number?_field hend 7 rfl (by simp [endFields, widths]) (by decide)
  have hdisk : number? bytes (members.length + records.length + 4) 2 = some 0 :=
    number?_field hend 1 rfl (by simp [endFields, widths]) (by decide)
  have hdisk' : number? bytes (members.length + records.length + 6) 2 = some 0 :=
    number?_field hend 2 rfl (by simp [endFields, widths]) (by decide)
  have hnumber : number? bytes (members.length + records.length + 8) 2 = some count :=
    number?_field hend 3 rfl (by simp [endFields, widths]) hcount
  have hsize : number? bytes (members.length + records.length + 12) 4 = some records.length :=
    number?_field hend 5 rfl (by simp [endFields, widths])
      (Nat.lt_of_le_of_lt (by omega) hlt)
  have hoffset : number? bytes (members.length + records.length + 16) 4 = some members.length :=
    number?_field hend 6 rfl (by simp [endFields, widths])
      (Nat.lt_of_le_of_lt (by omega) hlt)
  have hinside : members.length + records.length + endLength + 0 ≤ bytes.length := hlength.ge
  have hfits : records.length + members.length ≤ members.length + records.length :=
    (Nat.add_comm _ _).le
  have hstart : members.length + records.length - records.length = members.length :=
    Nat.add_sub_cancel ..
  simp only [read?, hlast, hcomment, hdisk, hdisk', hnumber, hsize, hoffset, Option.bind_eq_bind,
    Option.bind_some, guard, if_pos hinside, if_pos hfits, hstart, Nat.sub_self]
  rfl

theorem write?_eq_some_iff {archive : Archive} {bytes : Bytes} :
    write? archive = some bytes ↔ (archive.length < 0x10000 ∧
      (∀ member ∈ archive, (Bytes.ofText member.1).length < 0x10000) ∧
        (write archive).length < 0x100000000) ∧ write archive = bytes := by
  unfold write?
  simp only [Option.ite_none_right_eq_some, Option.some_inj]

/-- **An archive that can be written is read back.** -/
theorem read?_write? {archive : Archive} {bytes : Bytes} (h : write? archive = some bytes) :
    read? bytes = some archive := by
  obtain ⟨⟨hcount, hnames, hbytes⟩, rfl⟩ := write?_eq_some_iff.mp h
  have hwrite := write_eq archive
  have hmembers : At (write archive) 0 (sections archive 0).1 :=
    ⟨[], _, hwrite.trans (List.append_assoc _ _ _), rfl⟩
  have hrecords : At (write archive) (sections archive 0).1.length (sections archive 0).2 :=
    ⟨_, _, hwrite, rfl⟩
  rw [read?_eq hwrite hcount hbytes]
  exact members?_eq hrecords hmembers hnames hbytes

end CrossEntropy.Zip
