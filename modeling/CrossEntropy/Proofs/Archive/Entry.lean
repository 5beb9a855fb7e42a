import CrossEntropy.Proofs.Archive.Literal
import CrossEntropy.Proofs.Index
import CrossEntropy.Archive.Entry

/-!
# Stored arrays that are read back

What is written for an array is read as that array: same shape, same words, whatever the order in
which they lie.

* `Shape.InMemory`: shapes that tensors in memory can have;
* `Entry.IsStorable`: arrays that the format covers;
* `readWords_append`, `arrange?_words`: the words and their order;
* `headerText?_header`, `readHeader_append`: the header;
* **`read_write`**: the array.
-/

namespace CrossEntropy

/-! ## Sizes -/

/-- The sizes of a tensor in memory: without those that are zero their product is within 63 bits,
and with them the number of bytes is. -/
structure Shape.InMemory (shape : Shape) : Prop where
  places : Shape.size (shape.filter (· ≠ 0)) < 2 ^ 63
  bytes : 4 * Shape.size shape < 2 ^ 63

theorem Shape.size_filter_pos (shape : Shape) : 0 < Shape.size (shape.filter (· ≠ 0)) := by
  induction shape with
  | nil => exact Nat.one_pos
  | cons k shape ih =>
    by_cases hk : k = 0
    · rwa [List.filter_cons_of_neg (by simpa using hk)]
    · rw [List.filter_cons_of_pos (by simpa using hk)]
      exact Nat.mul_pos (Nat.pos_of_ne_zero hk) ih

theorem Shape.le_size_filter {shape : Shape} {n : Nat} (hn : n ∈ shape) :
    n ≤ Shape.size (shape.filter (· ≠ 0)) := by
  induction shape with
  | nil => cases hn
  | cons k shape ih =>
    have hpos := Shape.size_filter_pos shape
    by_cases hk : k = 0
    · rw [List.filter_cons_of_neg (by simpa using hk)]
      rcases List.mem_cons.mp hn with rfl | hn
      · omega
      · exact ih hn
    · rw [List.filter_cons_of_pos (by simpa using hk), Shape.size_cons]
      rcases List.mem_cons.mp hn with rfl | hn
      · exact Nat.le_mul_of_pos_right n hpos
      · exact (ih hn).trans (Nat.le_mul_of_pos_left _ (Nat.pos_of_ne_zero hk))

namespace Entry

theorem foldlM_product {shape : Shape} {n : Nat}
    (h : n * Shape.size (shape.filter (· ≠ 0)) < UInt64.size) :
    shape.foldlM (fun n size => if n * size < UInt64.size then some (n * size) else none) n =
      some (n * Shape.size shape) := by
  induction shape generalizing n with
  | nil => rw [List.foldlM_nil, Shape.size_nil, Nat.mul_one]; rfl
  | cons k shape ih =>
    have hpos := Shape.size_filter_pos shape
    have hstep : n * k * Shape.size (shape.filter (· ≠ 0)) < UInt64.size := by
      by_cases hk : k = 0
      · subst hk
        rw [Nat.mul_zero, Nat.zero_mul]
        decide
      · rwa [List.filter_cons_of_pos (by simpa using hk), Shape.size_cons, ← Nat.mul_assoc] at h
    have hlt : n * k < UInt64.size := Nat.lt_of_le_of_lt (Nat.le_mul_of_pos_right _ hpos) hstep
    rw [List.foldlM_cons, if_pos hlt, Option.bind_eq_bind, Option.bind_some, ih hstep,
      Shape.size_cons, Nat.mul_assoc]

theorem length?_eq {shape : Shape} (h : shape.InMemory) :
    length? shape = some (Shape.size shape) := by
  have hplaces := h.places
  have hbytes := h.bytes
  have hproduct : product? shape = some (Shape.size shape) := by
    have h1 : 1 * Shape.size (shape.filter (· ≠ 0)) < UInt64.size := by
      rw [Nat.one_mul]
      exact hplaces.trans (by decide)
    rw [product?, foldlM_product h1, Nat.one_mul]
  have hguard : 2 * (4 * Shape.size shape) < UInt64.size := by
    have : UInt64.size = 2 * 2 ^ 63 := rfl
    omega
  rw [length?, hproduct, Option.bind_eq_bind, Option.bind_some]
  simp [guard, hguard]

/-! ## Words -/

theorem ofNat_ofLittle (word : UInt32) :
    UInt32.ofNat (Bytes.ofLittle (Bytes.little 4 word.toNat)) = word := by
  rw [Bytes.ofLittle_little word.toNat_lt, UInt32.ofNat_toNat]

theorem readWords_append (ws : List UInt32) (read : Array UInt32) (rest : Bytes) :
    readWords Bytes.ofLittle ws.length read
        (ws.flatMap (fun word => Bytes.little 4 word.toNat) ++ rest) =
      some (read ++ ws.toArray, rest) := by
  induction ws generalizing read with
  | nil => simp [readWords]
  | cons w ws ih =>
    have hw : readWords Bytes.ofLittle (ws.length + 1) read
        (Bytes.little 4 w.toNat ++ (ws.flatMap (fun word => Bytes.little 4 word.toNat) ++ rest)) =
      readWords Bytes.ofLittle ws.length
        (read.push (.ofNat (Bytes.ofLittle (Bytes.little 4 w.toNat))))
        (ws.flatMap (fun word => Bytes.little 4 word.toNat) ++ rest) := rfl
    rw [List.flatMap_cons, List.append_assoc, List.length_cons, hw, ofNat_ofLittle, ih]
    simp

theorem length_flatMap_little (ws : List UInt32) :
    (ws.flatMap fun word => Bytes.little 4 word.toNat).length = 4 * ws.length := by
  simp [List.length_flatMap, Nat.mul_comm]

theorem size_reverse (shape : Shape) : Shape.size shape.reverse = shape.size := by
  induction shape with
  | nil => rfl
  | cons k shape ih =>
    rw [List.reverse_cons, Shape.size_append, ih, Shape.size_cons, Shape.size_cons, Shape.size_nil,
      Nat.mul_one, Nat.mul_comm]

theorem length_words (order : MemoryOrder) (x : Tensor UInt32) :
    (words order x).length = x.size := by
  cases order with
  | rowMajor => exact Vector.length_toList
  | columnMajor => exact Vector.length_toList.trans (size_reverse x.shape)

theorem ofArray?_entries {α : Type} (x : Tensor α) :
    Tensor.ofArray? x.shape x.entries.toList.toArray = some x := by
  rw [Tensor.ofArray?, dif_pos (by simp)]
  obtain ⟨shape, ⟨⟨entries⟩, h⟩⟩ := x
  rfl

/-- **The words of a tensor in either order make up the tensor.** -/
theorem arrange?_words (order : MemoryOrder) (x : Tensor UInt32) :
    arrange? order x.shape (words order x).toArray = some x := by
  cases order with
  | rowMajor => exact ofArray?_entries x
  | columnMajor =>
    unfold arrange? words
    exact (congrArg (Option.map Tensor.transpose) (ofArray?_entries x.transpose)).trans
      (congrArg some x.transpose_transpose)

/-! ## The header -/

/-- The items of a header's dictionary: their texts, and what these say. -/
def headerItems (type : ElementType) (order : MemoryOrder) (shape : Shape) :
    List (List Char × Literal × Option Literal) :=
  [(("'descr'".toList ++ ':' :: ' ' :: '\'' :: ['<', letter type, '4'] ++ ['\'']),
      .text "descr".toList, some (.text ['<', letter type, '4'])),
    ("'fortran_order'".toList ++ ':' :: ' ' ::
        (if order = .columnMajor then "True".toList else "False".toList),
      .text "fortran_order".toList, some (.boolean (order = .columnMajor))),
    ("'shape'".toList ++ ':' :: ' ' :: '(' :: Literal.tupleItems shape ++ [')'],
      .text "shape".toList, some (.tuple (shape.map fun n : Nat => .integer n)))]

theorem tupleText_toList (shape : Shape) :
    (tupleText shape).toList = '(' :: Literal.tupleItems shape ++ [')'] := by
  unfold tupleText Literal.tupleItems
  split
  next n => simp [Nat.toList_repr]
  next hshape =>
    have hrepr : shape.map (String.toList ∘ Nat.repr) = shape.map (Nat.toDigits 10) :=
      List.map_congr_left fun n _ => Nat.toList_repr
    simp only [String.toList_append, String.toList_intercalate, List.map_map, hrepr]
    rfl

theorem dictionaryText_toList (type : ElementType) (order : MemoryOrder) (shape : Shape) :
    (dictionaryText type order shape).toList =
      '\x7b' :: Literal.commaJoined ((headerItems type order shape).map (·.1)) ++ ['\x7d'] := by
  unfold dictionaryText headerItems Literal.commaJoined
  simp [tupleText_toList]
  cases order <;> rfl

theorem readsItem_header (type : ElementType) (order : MemoryOrder) (shape : Shape) (item)
    (h : item ∈ headerItems type order shape) :
    Literal.ReadsItem (shape.length + 3) item.1 item.2 := by
  simp only [headerItems, List.mem_cons, List.not_mem_nil, or_false] at h
  rcases h with rfl | rfl | rfl
  · have htype : ['<', letter type, '4'].any (· ∈ ['\'', '\\', '\n', '\r']) = false := by
      cases type <;> decide
    exact .pair ((@Literal.Reads.text "descr".toList (by decide)).of_le (by omega))
      ((Literal.Reads.text htype).of_le (by omega))
  · have hvalue := Literal.Reads.boolean (order = .columnMajor)
    exact .pair ((@Literal.Reads.text "fortran_order".toList (by decide)).of_le (by omega))
      (by simpa using hvalue.of_le (by omega))
  · exact .pair ((@Literal.Reads.text "shape".toList (by decide)).of_le (by omega))
      (Literal.Reads.tuple shape)

theorem mapM_size? {shape : Shape} (h : ∀ n ∈ shape, n < UInt64.size) :
    (shape.map fun n : Nat => Literal.integer n).mapM size? = some shape := by
  induction shape with
  | nil => rfl
  | cons n shape ih =>
    have hn : n < UInt64.size := h n List.mem_cons_self
    have hsize : size? (.integer n) = some n := by
      rw [size?, if_pos ⟨Int.natCast_nonneg n, Int.ofNat_lt.mpr hn⟩, Int.toNat_natCast]
    rw [List.map_cons, List.mapM_cons, hsize, ih fun m hm => h m (List.mem_cons_of_mem n hm)]
    rfl

theorem ofLiteral?_header (type : ElementType) (order : MemoryOrder) {shape : Shape}
    (hshape : ∀ n ∈ shape, n < UInt64.size) :
    Header.ofLiteral? (.dictionary [(.text "descr".toList, .text ['<', letter type, '4']),
      (.text "fortran_order".toList, .boolean (order = .columnMajor)),
      (.text "shape".toList, .tuple (shape.map fun n : Nat => .integer n))]) =
      some ⟨.text ['<', letter type, '4'], order, shape⟩ := by
  have hdescr (h : PartialHeader) (value : Literal) :
      h.add? (.text "descr".toList, value) = some { h with descriptor := some value } := rfl
  have horder (h : PartialHeader) :
      h.add? (.text "fortran_order".toList, .boolean (order = .columnMajor)) =
        some { h with order := some order } := by
    cases order <;> rfl
  have hsizes (h : PartialHeader) :
      h.add? (.text "shape".toList, .tuple (shape.map fun n : Nat => .integer n)) =
        some { h with shape := some shape } := by
    change (do return { h with shape := some (← List.mapM size? _) }) = _
    rw [mapM_size? hshape]
    rfl
  simp only [Header.ofLiteral?, List.foldlM_cons, List.foldlM_nil, hdescr, horder, hsizes,
    Option.bind_eq_bind, Option.bind_some]
  rfl

theorem length_le_dictionaryText (type : ElementType) (order : MemoryOrder) (shape : Shape) :
    shape.length + 3 ≤ (dictionaryText type order shape).toList.length := by
  have htuple := Literal.length_le_tupleItems shape
  rw [dictionaryText_toList]
  simp only [headerItems, Literal.commaJoined, List.map_cons, List.map_nil,
    List.intercalate_cons_cons, List.intercalate_singleton, List.length_append, List.length_cons]
  omega

theorem read?_dictionaryText (type : ElementType) (order : MemoryOrder) (shape : Shape)
    (padding : Nat) :
    Literal.read? ((dictionaryText type order shape).toList ++ List.replicate padding ' ') =
      some (.dictionary [(.text "descr".toList, .text ['<', letter type, '4']),
        (.text "fortran_order".toList, .boolean (order = .columnMajor)),
        (.text "shape".toList, .tuple (shape.map fun n : Nat => .integer n))]) := by
  have hlength := length_le_dictionaryText type order shape
  obtain ⟨more, hmore⟩ := Nat.exists_eq_add_of_le hlength
  have hfuel : 2 * ((dictionaryText type order shape).toList ++
      List.replicate padding ' ').length + 2 =
        shape.length + 3 + (shape.length + 2 * more + 2 * padding + 3) + 2 := by
    rw [List.length_append, List.length_replicate, hmore]
    omega
  have hblank : (List.replicate padding ' ').all Literal.isBlank = true := by
    simp [Literal.isBlank]
  have hread := Literal.readValue_dictionary (readsItem_header type order shape)
    (shape.length + 2 * more + 2 * padding) (List.replicate padding ' ')
  rw [Literal.read?, hfuel, dictionaryText_toList, List.append_assoc, List.singleton_append]
  refine (congrArg (Option.bind · _) hread).trans ?_
  change (do guard ((List.replicate padding ' ').all Literal.isBlank = true); return _) = _
  rw [hblank]
  rfl

/-! ## The bytes of the header -/

theorem isAscii_commaJoined {texts : List (List Char)}
    (h : ∀ cs ∈ texts, Bytes.isAscii cs = true) :
    Bytes.isAscii (Literal.commaJoined texts) = true := by
  induction texts with
  | nil => rfl
  | cons cs texts ih =>
    have hcs := h cs List.mem_cons_self
    have ih := ih fun ds hds => h ds (List.mem_cons_of_mem cs hds)
    cases texts with
    | nil => simpa [Literal.commaJoined] using hcs
    | cons ds texts =>
      rw [Literal.commaJoined_cons_cons, Bytes.isAscii_append, hcs]
      exact ih

theorem isAscii_tupleItems (ns : List Nat) : Bytes.isAscii (Literal.tupleItems ns) = true := by
  unfold Literal.tupleItems
  split
  next n =>
    rw [Bytes.isAscii_append, Bytes.isAscii_toDigits]
    rfl
  next =>
    refine isAscii_commaJoined fun cs hcs => ?_
    obtain ⟨n, -, rfl⟩ := List.mem_map.mp hcs
    exact Bytes.isAscii_toDigits n

theorem isAscii_tupleText (shape : Shape) : Bytes.isAscii (tupleText shape).toList = true := by
  rw [tupleText_toList, Bytes.isAscii_append, Bytes.isAscii_cons, isAscii_tupleItems]
  decide

theorem isAscii_dictionaryText (type : ElementType) (order : MemoryOrder) (shape : Shape) :
    Bytes.isAscii (dictionaryText type order shape).toList = true := by
  unfold dictionaryText
  simp only [String.toList_append, Bytes.isAscii_append, isAscii_tupleText]
  cases type <;> cases order <;> decide

theorem header_eq (type : ElementType) (order : MemoryOrder) (shape : Shape) :
    ∃ padding, header type order shape = Bytes.ofText (.ofList
      ((dictionaryText type order shape).toList ++ List.replicate padding ' ')) ++ [0x0a] := by
  refine ⟨64 - (magic.length + 4 +
    (Bytes.ofText (dictionaryText type order shape)).length + 1) % 64, ?_⟩
  rw [String.ofList_append, String.ofList_toList, Bytes.ofText_append,
    Bytes.ofText_ascii (Bytes.isAscii_replicate _ (by decide)), List.map_replicate]
  rfl

/-- **The text of a header is read back.** -/
theorem headerText?_header (type : ElementType) (order : MemoryOrder) (shape : Shape) :
    ∃ padding, headerText? 1 (header type order shape) = some (.ofList
      ((dictionaryText type order shape).toList ++ List.replicate padding ' ')) := by
  obtain ⟨padding, hheader⟩ := header_eq type order shape
  refine ⟨padding, ?_⟩
  have hascii : Bytes.isAscii
      ((dictionaryText type order shape).toList ++ List.replicate padding ' ') = true := by
    rw [Bytes.isAscii_append, isAscii_dictionaryText, Bytes.isAscii_replicate _ (by decide)]
    rfl
  have hall : (header type order shape).all (· < 0x80) = true := by
    rw [hheader, List.all_append, Bool.and_eq_true]
    exact ⟨List.all_eq_true.mpr fun b hb => decide_eq_true (Bytes.lt_of_mem_ofText hascii hb), rfl⟩
  have hlast : (header type order shape).getLast? = some 0x0a := by
    rw [hheader, List.getLast?_concat]
  rw [headerText?, hall, hlast, hheader, List.dropLast_concat, Bytes.toText?_ofText]
  rfl

/-! ## The array -/

theorem take_append {n : Nat} {first : Bytes} (hn : first.length = n) (rest : Bytes) :
    take n (first ++ rest) = .ok (first, rest) := by
  subst hn
  rw [take, if_pos (by simp), List.take_left, List.drop_left]

/-- **The header of what is written is read back.** -/
theorem readHeader_append (type : ElementType) (order : MemoryOrder) {shape : Shape}
    (hshape : ∀ n ∈ shape, n < UInt64.size)
    (hlength : (header type order shape).length < 0x10000) (rest : Bytes) :
    readHeader (magic ++ [1, 0] ++ Bytes.little 2 (header type order shape).length ++
      header type order shape ++ rest) =
        .ok (⟨.text ['<', letter type, '4'], order, shape⟩, rest) := by
  obtain ⟨padding, htext⟩ := headerText?_header type order shape
  have hvalue : ((headerText? 1 (header type order shape)).bind (Literal.read? ·.toList)).bind
      Header.ofLiteral? = some ⟨.text ['<', letter type, '4'], order, shape⟩ := by
    simp only [htext, Option.bind_some, String.toList_ofList, read?_dictionaryText]
    exact ofLiteral?_header type order hshape
  have hlittle : Bytes.ofLittle (Bytes.little 2 (header type order shape).length) =
      (header type order shape).length := Bytes.ofLittle_little hlength
  have hstart := @take_append _ magic rfl
  have hversion := @take_append 2 [1, 0] rfl
  have hfield := @take_append 2 (Bytes.little 2 (header type order shape).length) rfl
  have hheader := @take_append _ (header type order shape) rfl
  simp only [readHeader, List.append_assoc, hstart, hversion, hfield, hheader, hlittle, bind,
    Except.bind, pure, Except.pure, if_true]
  rw [hvalue]

/-! ## Arrays -/

/-- An array that the format covers: its tensor is in memory, and the length of its header is a
16-bit number. -/
structure IsStorable (type : ElementType) (order : MemoryOrder) (x : Tensor UInt32) : Prop where
  inMemory : x.shape.InMemory
  header : (header type (writtenOrder order x.shape) x.shape).length < 2 ^ 16

/-- **An array is read back from what is written for it**, whatever its shape, its order and its
words. -/
theorem read_write {type : ElementType} {order : MemoryOrder} {x : Tensor UInt32}
    (h : IsStorable type order x) : read type (write type order x) = .ok x := by
  have hsizes (n : Nat) (hn : n ∈ x.shape) : n < UInt64.size :=
    (Shape.le_size_filter hn).trans_lt (h.inMemory.places.trans (by decide))
  have hheader := readHeader_append type (writtenOrder order x.shape) hsizes h.header
  have hdecoder : decoder? type (.text ['<', letter type, '4']) = some Bytes.ofLittle := by
    cases type <;> rfl
  have hwords := readWords_append (words (writtenOrder order x.shape) x) #[] []
  rw [length_words, List.append_nil] at hwords
  have hlength := length?_eq h.inMemory
  have henough : ¬ ((words (writtenOrder order x.shape) x).flatMap fun word =>
      Bytes.little 4 word.toNat).length < 4 * x.size := by
    rw [length_flatMap_little, length_words]
    exact Nat.lt_irrefl _
  have harrange := arrange?_words (writtenOrder order x.shape) x
  simp only [read, write, hheader, hlength, hdecoder, bind, Except.bind, pure, Except.pure,
    if_neg henough, hwords, if_true, Array.empty_append, harrange]

end Entry

end CrossEntropy
