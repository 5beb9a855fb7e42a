import CrossEntropy.Proofs.Archive.Text
import CrossEntropy.Archive.Literal

/-!
# Literals that are read back

What a header's dictionary consists of is read as what it says: quoted texts without special
characters, truth values, decimal numbers, and brackets around items with commas between them.

* `delimiters`: what follows a value inside brackets;
* `Reads`: a text is read as a value, wherever a delimiter follows;
* `Reads.text`, `Reads.boolean`, **`Reads.natural`**: simple values;
* **`readEnclosed_items`**: the items between brackets.
-/

namespace CrossEntropy.Literal

/-- The characters that may follow a value inside brackets. -/
def delimiters : List Char := [',', ':', ')', '\x7d']

/-- The characters that are skipped between values. -/
def spaces : List Char := [' ', '\t', '\x0c', '\n', '\r']

theorem delimiter_cases {c : Char} (hc : c ∈ delimiters) :
    c = ',' ∨ c = ':' ∨ c = ')' ∨ c = '\x7d' := by
  simpa [delimiters] using hc

theorem isSpace_eq_false {c : Char} (hc : c ∉ spaces) : isSpace c = false := by
  simp only [spaces, List.mem_cons, List.not_mem_nil, or_false, not_or] at hc
  simp [isSpace, isBlank, hc]

theorem isSpace_delimiter {c : Char} (hc : c ∈ delimiters) : isSpace c = false := by
  rcases delimiter_cases hc with rfl | rfl | rfl | rfl <;> decide

theorem skipSpace_cons {c : Char} (hc : isSpace c = false) (cs : List Char) :
    skipSpace (c :: cs) = c :: cs := by
  rw [skipSpace, List.dropWhile_cons, hc]
  rfl

theorem skipSpace_space (cs : List Char) : skipSpace (' ' :: cs) = skipSpace cs := rfl

/-! ## Decimal numbers -/

theorem isDigit_of_mem_toDigits {n : Nat} {c : Char} (hc : c ∈ Nat.toDigits 10 n) :
    c.isDigit = true :=
  Nat.isDigit_of_mem_toDigits (by decide) (by decide) hc

theorem not_mem_of_isDigit {c : Char} (hc : c.isDigit = true) {cs : List Char}
    (hcs : cs.any Char.isDigit = false) : c ∉ cs := by
  intro h
  rw [List.any_eq_true.mpr ⟨c, h, hc⟩] at hcs
  cases hcs

theorem readDigits_append {ds : List Char} (hds : ∀ c ∈ ds, c.isDigit = true) {c : Char}
    (hc : c ∈ delimiters) (rest : List Char) :
    readDigits Char.isDigit (ds ++ c :: rest) = (ds, c :: rest) := by
  induction ds with
  | nil =>
    rcases delimiter_cases hc with rfl | rfl | rfl | rfl <;> rfl
  | cons d ds ih =>
    have hd : d.isDigit = true := hds d List.mem_cons_self
    have hne : d ≠ '_' := by
      rintro rfl
      exact absurd hd (by decide)
    have ih := ih fun e he => hds e (List.mem_cons_of_mem d he)
    rw [List.cons_append, readDigits, if_pos hd, ih]
    exact fun _ _ h => absurd h hne

theorem afterFraction?_delimiter {c : Char} (hc : c ∈ delimiters) (rest : List Char) :
    afterFraction? (c :: rest) = none := by
  rcases delimiter_cases hc with rfl | rfl | rfl | rfl <;> rfl

theorem hexDigit?_digit {c : Char} (hc : c.isDigit = true) :
    hexDigit? c = some (c.toNat - '0'.toNat) := if_pos hc

theorem digitsValue_toDigits (n : Nat) : digitsValue 10 (Nat.toDigits 10 n) = n := by
  calc digitsValue 10 (Nat.toDigits 10 n)
      = Nat.ofDigitChars 10 (Nat.toDigits 10 n) 0 := by
        rw [Nat.ofDigitChars_eq_foldl]
        refine List.foldl_ext _ _ 0 fun m c hc => ?_
        rw [hexDigit?_digit (isDigit_of_mem_toDigits hc), Option.getD_some]
    _ = n := Nat.ofDigitChars_ten_toDigits

theorem head?_toDigits {n : Nat} (hn : n ≠ 0) : (Nat.toDigits 10 n).head? ≠ some '0' := by
  induction n using Nat.strongRecOn with
  | ind n ih =>
    rw [Nat.toDigits_eq_if (by decide)]
    split
    next hlt => simpa using hn
    next hge =>
      rw [List.head?_append_of_ne_nil _ Nat.toDigits_ne_nil]
      exact ih (n / 10) (by omega) (by omega)

theorem readUnsigned_decimal {c d : Char} {cs : List Char} (hc : c.isDigit = true)
    (hd : d.isDigit = true ∨ d ∈ delimiters) :
    readUnsigned (c :: d :: cs) =
      let (digits, rest) := readDigits Char.isDigit (c :: d :: cs)
      if digits = [] then none
      else match afterFraction? rest with
        | some rest => some (.inexact, rest)
        | none =>
          if digits.head? = some '0' ∧ digits.any (· ≠ '0') then none
          else some (.integer (digitsValue 10 digits), rest) := by
  have hletter : d ∉ ['x', 'X', 'o', 'O', 'b', 'B'] := by
    intro hl
    simp only [List.mem_cons, List.not_mem_nil, or_false] at hl
    rcases hl with rfl | rfl | rfl | rfl | rfl | rfl <;> revert hd <;> decide
  unfold readUnsigned
  split
  iterate 6
    next h =>
      cases h
      exact absurd (by decide) hletter
  next h =>
    cases h
    exact absurd hc (by decide)
  next => rfl

theorem toDigits_append_cons (n : Nat) {d : Char} (hd : d ∈ delimiters) (rest : List Char) :
    ∃ c e cs, Nat.toDigits 10 n ++ d :: rest = c :: e :: cs ∧ c.isDigit = true ∧
      (e.isDigit = true ∨ e ∈ delimiters) := by
  have hdigit (c : Char) (hc : c ∈ Nat.toDigits 10 n) := isDigit_of_mem_toDigits hc
  cases hn : Nat.toDigits 10 n with
  | nil => exact absurd hn Nat.toDigits_ne_nil
  | cons c ds =>
    rw [hn] at hdigit
    have hc := hdigit c List.mem_cons_self
    cases ds with
    | nil => exact ⟨c, d, rest, rfl, hc, .inr hd⟩
    | cons e ds => exact ⟨c, e, ds ++ d :: rest, rfl, hc, .inl (hdigit e (by simp))⟩

theorem readUnsigned_toDigits (n : Nat) {d : Char} (hd : d ∈ delimiters) (rest : List Char) :
    readUnsigned (Nat.toDigits 10 n ++ d :: rest) = some (.integer n, d :: rest) := by
  have hzeros : ¬ ((Nat.toDigits 10 n).head? = some '0' ∧
      (Nat.toDigits 10 n).any (· ≠ '0') = true) := by
    by_cases hn : n = 0
    · subst hn
      decide
    · exact fun h => head?_toDigits hn h.1
  obtain ⟨c, e, cs, hcs, hc, he⟩ := toDigits_append_cons n hd rest
  rw [hcs, readUnsigned_decimal hc he, ← hcs,
    readDigits_append (fun c => isDigit_of_mem_toDigits) hd]
  simp only [Nat.toDigits_ne_nil, if_false, afterFraction?_delimiter hd, if_neg hzeros,
    digitsValue_toDigits]

theorem readNumber_digit {c : Char} (hc : c.isDigit = true) (cs : List Char) :
    readNumber (c :: cs) = readUnsigned (c :: cs) := by
  unfold readNumber
  split
  iterate 3
    next h =>
      cases h
      exact absurd hc (by decide)
  next => rfl

theorem readTerms_delimiter (fuel : Nat) (value : Literal) {d : Char} (hd : d ∈ delimiters)
    (rest : List Char) : readTerms (fuel + 1) value (d :: rest) = some (value, d :: rest) := by
  rcases delimiter_cases hd with rfl | rfl | rfl | rfl <;> rfl

theorem readSum_toDigits (n : Nat) {d : Char} (hd : d ∈ delimiters) (rest : List Char) :
    readSum (Nat.toDigits 10 n ++ d :: rest) = some (.integer n, d :: rest) := by
  obtain ⟨c, e, cs, hcs, hc, -⟩ := toDigits_append_cons n hd rest
  have hnumber := readUnsigned_toDigits n hd rest
  rw [hcs, ← readNumber_digit hc, ← hcs] at hnumber
  rw [readSum, hnumber]
  exact readTerms_delimiter _ _ hd rest

/-! ## Values -/

theorem readQuoted_append {quote : Char} {cs : List Char}
    (hquote : quote ≠ '\\') (hcs : cs.any (· ∈ [quote, '\\', '\n', '\r']) = false)
    (rest : List Char) : readQuoted quote (cs ++ quote :: rest) = some (cs, rest) := by
  induction cs with
  | nil =>
    rw [List.nil_append, readQuoted]
    · exact if_pos rfl
    all_goals
      intros
      contradiction
  | cons c cs ih =>
    rw [List.any_cons, Bool.or_eq_false_iff] at hcs
    have hc := of_decide_eq_false hcs.1
    simp only [List.mem_cons, List.not_mem_nil, or_false, not_or] at hc
    rw [List.cons_append, readQuoted, if_neg hc.1, if_neg (by simp [hc]), ih hcs.2]
    · rfl
    all_goals
      intros
      exact absurd ‹_› hc.2.1

theorem readValue_digit {c : Char} (hc : c.isDigit = true) (fuel : Nat) (cs : List Char) :
    readValue (fuel + 1) (c :: cs) = readSum (c :: cs) := by
  unfold readValue
  split
  iterate 12
    next h =>
      cases h
      exact absurd hc (by decide)
  next => rfl

/-- With this fuel or more a text is read as a value, wherever a delimiter follows it. It starts
with neither a space nor a delimiter. -/
structure Reads (fuel : Nat) (cs : List Char) (value : Literal) : Prop where
  start : ∃ c ds, cs = c :: ds ∧ isSpace c = false ∧ c ∉ delimiters
  read (more : Nat) {d : Char} (hd : d ∈ delimiters) (rest : List Char) :
    readValue (fuel + more) (cs ++ d :: rest) = some (value, d :: rest)

namespace Reads

theorem boolean (b : Bool) :
    Reads 1 (if b then "True".toList else "False".toList) (.boolean b) where
  start := by
    cases b
    · exact ⟨'F', "alse".toList, rfl, by decide, by decide⟩
    · exact ⟨'T', "rue".toList, rfl, by decide, by decide⟩
  read more d hd rest := by
    rw [Nat.add_comm]
    cases b <;> rfl

/-- **A decimal number is read back.** -/
theorem natural (n : Nat) : Reads 1 (Nat.toDigits 10 n) (.integer n) where
  start := by
    obtain ⟨c, ds, hds⟩ := List.exists_cons_of_ne_nil (Nat.toDigits_ne_nil (n := n) (b := 10))
    have hc : c.isDigit = true := isDigit_of_mem_toDigits (n := n) (by simp [hds])
    exact ⟨c, ds, hds, isSpace_eq_false (not_mem_of_isDigit hc (by decide)),
      not_mem_of_isDigit hc (by decide)⟩
  read more d hd rest := by
    obtain ⟨c, e, cs, hcs, hc, -⟩ := toDigits_append_cons n hd rest
    have hsum := readSum_toDigits n hd rest
    rw [Nat.add_comm, hcs, readValue_digit hc, ← hcs, hsum]

theorem text {cs : List Char} (hcs : cs.any (· ∈ ['\'', '\\', '\n', '\r']) = false) :
    Reads 1 ('\'' :: cs ++ ['\'']) (.text cs) where
  start := ⟨'\'', cs ++ ['\''], rfl, by decide, by decide⟩
  read more d hd rest := by
    have hquoted := readQuoted_append (by decide) hcs (d :: rest)
    rw [Nat.add_comm, List.append_assoc, List.cons_append, readValue, List.singleton_append,
      hquoted]
    rfl

theorem of_le {fuel fuel' : Nat} {cs : List Char} {value : Literal} (h : Reads fuel cs value)
    (hle : fuel ≤ fuel') : Reads fuel' cs value where
  start := h.start
  read more d hd rest := by
    obtain ⟨k, rfl⟩ := Nat.exists_eq_add_of_le hle
    rw [Nat.add_assoc]
    exact h.read _ hd rest

end Reads

/-! ## Items between brackets -/

/-- A text is read as an item: a value, or two with a colon between them. -/
inductive ReadsItem (fuel : Nat) : List Char → Literal × Option Literal → Prop
  | alone {cs : List Char} {value : Literal} (h : Reads fuel cs value) :
      ReadsItem fuel cs (value, none)
  | pair {ks vs : List Char} {key value : Literal} (hk : Reads fuel ks key)
      (hv : Reads fuel vs value) : ReadsItem fuel (ks ++ ':' :: ' ' :: vs) (key, some value)

theorem ReadsItem.start {fuel : Nat} {cs : List Char} {item : Literal × Option Literal}
    (h : ReadsItem fuel cs item) : ∃ c ds, cs = c :: ds ∧ isSpace c = false ∧ c ∉ delimiters := by
  cases h with
  | alone h => exact h.start
  | pair hk hv =>
    obtain ⟨c, ds, rfl, hc⟩ := hk.start
    exact ⟨c, ds ++ ':' :: ' ' :: _, rfl, hc⟩

theorem ReadsItem.exists_cons {fuel : Nat} {cs : List Char} {item : Literal × Option Literal}
    (h : ReadsItem fuel cs item) {close : Char} (hclose : close ∈ delimiters) :
    ∃ c ds, cs = c :: ds ∧ c ≠ close := by
  obtain ⟨c, ds, hcs, -, hc⟩ := h.start
  refine ⟨c, ds, hcs, ?_⟩
  rintro rfl
  exact hc hclose

theorem skipSpace_append {fuel : Nat} {cs : List Char} {value : Literal} (h : Reads fuel cs value)
    (rest : List Char) : skipSpace (cs ++ rest) = cs ++ rest := by
  obtain ⟨c, ds, rfl, hc, -⟩ := h.start
  exact skipSpace_cons hc _

/-- **An item is read** up to a comma or a bracket. -/
theorem readItem_eq {fuel : Nat} {cs : List Char} {item : Literal × Option Literal}
    (h : ReadsItem fuel cs item) (more : Nat) {d : Char} (hd : d ∈ [',', ')', '\x7d'])
    (rest : List Char) :
    readItem (readValue (fuel + more)) (cs ++ d :: rest) = some (item, d :: rest) := by
  have hd' : d ∈ delimiters := by
    simp only [delimiters, List.mem_cons, List.not_mem_nil, or_false] at hd ⊢
    tauto
  have hskip : skipSpace (d :: rest) = d :: rest := skipSpace_cons (isSpace_delimiter hd') rest
  have hcolon : d ≠ ':' := by
    rintro rfl
    exact absurd hd (by decide)
  cases h with
  | @alone cs value h =>
    rw [readItem, h.read more hd' rest]
    simp only [Option.bind_eq_bind, Option.bind_some, hskip]
    split
    next h =>
      cases h
      exact absurd rfl hcolon
    next => rfl
  | @pair ks vs key value hk hv =>
    have hkey := hk.read more (d := ':') (by decide) (' ' :: vs ++ d :: rest)
    have hvalue := hv.read more hd' rest
    have hskipValue : skipSpace (' ' :: vs ++ d :: rest) = vs ++ d :: rest := skipSpace_append hv _
    have hskipColon := skipSpace_cons (isSpace_delimiter (c := ':') (by decide))
      (' ' :: vs ++ d :: rest)
    rw [List.append_assoc, List.cons_append, readItem, hkey]
    simp only [Option.bind_eq_bind, Option.bind_some, hskipColon, hskipValue, hvalue, hskip]
    rfl

theorem readEnclosed_comma {fuel : Nat} {cs : List Char} {item : Literal × Option Literal}
    (h : ReadsItem fuel cs item) (more : Nat) {close : Char} (hclose : close ∈ delimiters)
    (rest : List Char) :
    readEnclosed (fuel + more + 1) close (cs ++ ',' :: rest) =
      (readEnclosed (fuel + more) close (skipSpace rest)).map fun read =>
        (⟨item :: read.1.items, read.1.items.isEmpty || read.1.isCommaLast⟩, read.2) := by
  have hitem := readItem_eq h more (d := ',') (by decide) rest
  obtain ⟨c, ds, hcs, hne⟩ := h.exists_cons hclose
  rw [hcs, List.cons_append] at hitem ⊢
  rw [readEnclosed, if_neg hne, hitem]
  cases hread : readEnclosed (fuel + more) close (skipSpace rest) <;> simp [hread]

theorem readEnclosed_close {fuel : Nat} {cs : List Char} {item : Literal × Option Literal}
    (h : ReadsItem fuel cs item) (more : Nat) {close : Char} (hclose : close ∈ [')', '\x7d'])
    (rest : List Char) :
    readEnclosed (fuel + more + 1) close (cs ++ close :: rest) = some (⟨[item], false⟩, rest) := by
  have hitem := readItem_eq h more (List.mem_cons_of_mem _ hclose) rest
  obtain ⟨c, ds, hcs, hne⟩ := h.exists_cons (List.mem_cons_of_mem _ (List.mem_cons_of_mem _ hclose))
  rw [hcs, List.cons_append] at hitem ⊢
  rw [readEnclosed, if_neg hne, hitem]
  simp only [List.mem_cons, List.not_mem_nil, or_false] at hclose
  rcases hclose with rfl | rfl <;> rfl

/-- Texts with a comma and a space between them. -/
def commaJoined (texts : List (List Char)) : List Char := [',', ' '].intercalate texts

theorem commaJoined_cons_cons (cs ds : List Char) (texts : List (List Char)) :
    commaJoined (cs :: ds :: texts) = cs ++ ',' :: ' ' :: commaJoined (ds :: texts) := by
  simp [commaJoined]

theorem skipSpace_commaJoined {fuel : Nat} {cs : List Char} {item : Literal × Option Literal}
    (h : ReadsItem fuel cs item) (texts : List (List Char)) (rest : List Char) :
    skipSpace (commaJoined (cs :: texts) ++ rest) = commaJoined (cs :: texts) ++ rest := by
  obtain ⟨c, ds, rfl, hc, -⟩ := h.start
  rw [commaJoined, List.intercalate_cons_cons_left, List.cons_append]
  exact skipSpace_cons hc _

/-- **The items between brackets are read back.** -/
theorem readEnclosed_items {fuel : Nat} {close : Char} (hclose : close ∈ [')', '\x7d'])
    {items : List (List Char × Literal × Option Literal)}
    (hitems : ∀ item ∈ items, ReadsItem fuel item.1 item.2) (more : Nat) (rest : List Char) :
    readEnclosed (fuel + (more + items.length) + 1) close
        (commaJoined (items.map (·.1)) ++ close :: rest) =
      some (⟨items.map (·.2), false⟩, rest) := by
  have hdelimiter : close ∈ delimiters := List.mem_cons_of_mem _ (List.mem_cons_of_mem _ hclose)
  induction items with
  | nil => exact if_pos rfl
  | cons item items ih =>
    have hitem := hitems item List.mem_cons_self
    cases items with
    | nil =>
      rw [List.map_cons, List.map_nil, commaJoined, List.intercalate_singleton]
      exact readEnclosed_close hitem _ hclose rest
    | cons next items =>
      have hskip := skipSpace_commaJoined (hitems next (by simp)) (items.map (·.1)) (close :: rest)
      have ih : readEnclosed _ close
          (commaJoined (next.1 :: items.map (·.1)) ++ close :: rest) = some (⟨_, false⟩, rest) :=
        ih fun item h => hitems item (List.mem_cons_of_mem _ h)
      rw [List.map_cons, List.map_cons, commaJoined_cons_cons, List.append_assoc, List.cons_append,
        readEnclosed_comma hitem _ hdelimiter, List.cons_append, skipSpace_space, hskip]
      exact (congrArg (Option.map _) ih).trans rfl

/-! ## Tuples and dictionaries -/

theorem skipSpace_items {fuel : Nat} {close : Char} (hclose : close ∈ delimiters)
    {items : List (List Char × Literal × Option Literal)}
    (hitems : ∀ item ∈ items, ReadsItem fuel item.1 item.2) (rest : List Char) :
    skipSpace (commaJoined (items.map (·.1)) ++ close :: rest) =
      commaJoined (items.map (·.1)) ++ close :: rest := by
  cases items with
  | nil => exact skipSpace_cons (isSpace_delimiter hclose) rest
  | cons item items =>
    exact skipSpace_commaJoined (hitems item List.mem_cons_self) (items.map (·.1)) (close :: rest)

/-- The numbers of a tuple, a comma after a single one. -/
def tupleItems : List Nat → List Char
  | [n] => Nat.toDigits 10 n ++ [',']
  | ns => commaJoined (ns.map (Nat.toDigits 10))

theorem length_le_commaJoined {texts : List (List Char)} (h : ∀ cs ∈ texts, cs ≠ []) :
    texts.length ≤ (commaJoined texts).length := by
  induction texts with
  | nil => exact Nat.zero_le _
  | cons cs texts ih =>
    have ih := ih fun ds hds => h ds (List.mem_cons_of_mem cs hds)
    cases texts with
    | nil => simpa [commaJoined, Nat.one_le_iff_ne_zero] using h cs List.mem_cons_self
    | cons ds texts =>
      simp only [commaJoined_cons_cons, List.length_append, List.length_cons] at ih ⊢
      omega

theorem length_le_tupleItems (ns : List Nat) : ns.length ≤ (tupleItems ns).length := by
  unfold tupleItems
  split
  next n => simp
  next =>
    refine (List.length_map _).symm.trans_le (length_le_commaJoined fun cs hcs => ?_)
    obtain ⟨n, -, rfl⟩ := List.mem_map.mp hcs
    exact Nat.toDigits_ne_nil

theorem readEnclosed_single (n more : Nat) (rest : List Char) :
    readEnclosed (3 + more) ')' (skipSpace (Nat.toDigits 10 n ++ ',' :: ')' :: rest)) =
      some (⟨[(.integer n, none)], true⟩, rest) := by
  have hfuel : 3 + more = 1 + (more + 1) + 1 := by omega
  rw [skipSpace_append (.natural n), hfuel, readEnclosed_comma (.alone (.natural n)) _ (by decide)]
  rfl

theorem readEnclosed_numbers (ns : List Nat) (more : Nat) (rest : List Char) :
    readEnclosed (ns.length + 2 + more) ')'
        (skipSpace (commaJoined (ns.map (Nat.toDigits 10)) ++ ')' :: rest)) =
      some (⟨ns.map fun n : Nat => (.integer n, none), false⟩, rest) := by
  let items : List (List Char × Literal × Option Literal) :=
    ns.map fun n : Nat => (Nat.toDigits 10 n, .integer n, none)
  have hitems (item) (h : item ∈ items) : ReadsItem 1 item.1 item.2 := by
    obtain ⟨n, -, rfl⟩ := List.mem_map.mp h
    exact .alone (.natural n)
  have htexts : items.map (·.1) = ns.map (Nat.toDigits 10) := by simp [items]
  have hvalues : items.map (·.2) = ns.map fun n : Nat => (Literal.integer n, none) := by
    simp [items]
  have hfuel : ns.length + 2 + more = 1 + (more + items.length) + 1 := by
    simp only [items, List.length_map]
    omega
  rw [← htexts, skipSpace_items (by decide) hitems, hfuel,
    readEnclosed_items (by decide) hitems, hvalues]

theorem tuple?_numbers (ns : List Nat) {isCommaLast : Bool}
    (h : ns.length = 1 → isCommaLast = true) :
    Enclosed.tuple? ⟨ns.map fun n : Nat => (.integer n, none), isCommaLast⟩ =
      some (.tuple (ns.map fun n : Nat => .integer n)) := by
  have hcomma : (ns.length != 1 || isCommaLast) = true := by
    by_cases hlength : ns.length = 1
    · simp [h hlength]
    · simp [hlength]
  simp [Enclosed.tuple?, hcomma, guard]

/-- **A tuple of numbers is read back.** -/
theorem Reads.tuple (ns : List Nat) :
    Reads (ns.length + 3) ('(' :: tupleItems ns ++ [')'])
      (.tuple (ns.map fun n : Nat => .integer n)) where
  start := ⟨'(', _, rfl, by decide, by decide⟩
  read more d hd rest := by
    have hfuel : ns.length + 3 + more = (ns.length + 2 + more) + 1 := by omega
    rw [hfuel, List.append_assoc, List.cons_append, List.singleton_append, readValue]
    unfold tupleItems
    split
    next n =>
      rw [List.append_assoc, List.singleton_append, List.length_singleton,
        readEnclosed_single n more (d :: rest)]
      rfl
    next hns =>
      have hlength : ns.length ≠ 1 := fun h => by
        obtain ⟨n, rfl⟩ := List.length_eq_one_iff.mp h
        exact hns n rfl
      rw [readEnclosed_numbers]
      change (do return (← Enclosed.tuple? _, d :: rest)) = _
      rw [tuple?_numbers ns fun h => absurd h hlength]
      rfl

theorem readValue_dictionary {fuel : Nat} {items : List (List Char × Literal × Option Literal)}
    (hitems : ∀ item ∈ items, ReadsItem fuel item.1 item.2) (more : Nat) (rest : List Char) :
    readValue (fuel + (more + items.length) + 2)
        ('\x7b' :: commaJoined (items.map (·.1)) ++ '\x7d' :: rest) =
      (Enclosed.dictionary? ⟨items.map (·.2), false⟩).map (·, rest) := by
  rw [List.cons_append, readValue, skipSpace_items (by decide) hitems,
    readEnclosed_items (by decide) hitems]
  change (do return (← Enclosed.dictionary? _, rest)) = _
  cases Enclosed.dictionary? ⟨items.map (·.2), false⟩ <;> rfl

end CrossEntropy.Literal
