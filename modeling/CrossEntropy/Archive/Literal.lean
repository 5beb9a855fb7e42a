/-!
# Literals

The header of a stored array is a dictionary literal: quoted texts, sums of numbers, `True`,
`False`, `None`, and tuples, lists, sets and dictionaries of literals. Blanks may stand around
everything, line breaks only inside brackets.

* `Literal`: the values;
* `Literal.read?`: the literal that a text consists of.
-/

namespace CrossEntropy

/-- The values that literals stand for. -/
inductive Literal
  | text (chars : List Char)
  | bytes (chars : List Char)
  | integer (value : Int)
  /-- A number with a point or an exponent, or an imaginary one. -/
  | inexact
  | boolean (value : Bool)
  | nothing
  | tuple (items : List Literal)
  | list (items : List Literal)
  | set (items : List Literal)
  | dictionary (items : List (Literal × Literal))

namespace Literal

/-! ## Blanks -/

/-- A blank that does not end a line. -/
def isBlank (c : Char) : Bool := c == ' ' || c == '\t' || c == '\x0c'

/-- A blank inside brackets. -/
def isSpace (c : Char) : Bool := isBlank c || c == '\n' || c == '\r'

/-- The text after its leading blanks, inside brackets. -/
def skipSpace (cs : List Char) : List Char := cs.dropWhile isSpace

/-! ## Quoted texts -/

/-- The value of a hexadecimal digit. -/
def hexDigit? (c : Char) : Option Nat :=
  if c.isDigit then some (c.toNat - '0'.toNat)
  else if 'a' ≤ c ∧ c ≤ 'f' then some (c.toNat - 'a'.toNat + 10)
  else if 'A' ≤ c ∧ c ≤ 'F' then some (c.toNat - 'A'.toNat + 10)
  else none

/-- The character that a letter after a backslash stands for. -/
def escaped? : Char → Option Char
  | '\\' => some '\\'
  | '\'' => some '\''
  | '"' => some '"'
  | 'a' => some '\x07'
  | 'b' => some '\x08'
  | 'f' => some '\x0c'
  | 'n' => some '\n'
  | 'r' => some '\r'
  | 't' => some '\t'
  | 'v' => some '\x0b'
  | _ => none

/-- The characters up to a closing quote, and what follows it. A backslash before a character
that needs none stays. -/
def readQuoted (quote : Char) : List Char → Option (List Char × List Char)
  | [] => none
  | '\\' :: '\n' :: rest => readQuoted quote rest
  | '\\' :: 'x' :: h :: l :: rest => do
    let (chars, rest) ← readQuoted quote rest
    return (.ofNat (16 * (← hexDigit? h) + (← hexDigit? l)) :: chars, rest)
  | '\\' :: c :: rest => do
    let (chars, rest) ← readQuoted quote rest
    match escaped? c with
    | some e => return (e :: chars, rest)
    | none => return ('\\' :: c :: chars, rest)
  | c :: rest =>
    if c = quote then some ([], rest)
    else if c = '\n' ∨ c = '\r' ∨ c = '\\' then none
    else do
      let (chars, rest) ← readQuoted quote rest
      return (c :: chars, rest)

/-! ## Numbers -/

/-- Digits of a base, single underscores between them. -/
def readDigits (isDigit : Char → Bool) : List Char → List Char × List Char
  | '_' :: c :: rest =>
    if isDigit c then
      let (digits, rest) := readDigits isDigit rest
      (c :: digits, rest)
    else ([], '_' :: c :: rest)
  | c :: rest =>
    if isDigit c then
      let (digits, rest) := readDigits isDigit rest
      (c :: digits, rest)
    else ([], c :: rest)
  | [] => ([], [])

/-- The value of digits of a base. -/
def digitsValue (base : Nat) (digits : List Char) : Nat :=
  digits.foldl (fun n c => base * n + (hexDigit? c).getD 0) 0

/-- A natural number in base two, eight or sixteen, after its prefix. -/
def readBased (base : Nat) (cs : List Char) : Option (Literal × List Char) :=
  let isDigit (c : Char) : Bool := (hexDigit? c).any (· < base)
  match readDigits isDigit cs with
  | ([], _) => none
  | (digits, rest) => some (.integer (digitsValue base digits), rest)

/-- The text after an exponent, if there is one. -/
def afterExponent? (cs : List Char) : Option (List Char) :=
  match cs with
  | e :: rest =>
    if e = 'e' ∨ e = 'E' then
      let unsigned := match rest with
        | '+' :: rest | '-' :: rest => rest
        | rest => rest
      match readDigits Char.isDigit unsigned with
      | ([], _) => none
      | (_, rest) => some rest
    else none
  | [] => none

/-- What follows the digits of a decimal number if it is not an integer: a point, an exponent, or
the mark of an imaginary number. -/
def afterFraction? (cs : List Char) : Option (List Char) :=
  let pointed := match cs with
    | '.' :: rest => some (readDigits Char.isDigit rest).2
    | _ => none
  let exponent := (afterExponent? (pointed.getD cs)).or pointed
  match exponent.getD cs with
  | 'j' :: rest | 'J' :: rest => some rest
  | _ => exponent

/-- An unsigned number. A decimal integer has no leading zeros, zero itself apart. -/
def readUnsigned (cs : List Char) : Option (Literal × List Char) :=
  match cs with
  | '0' :: 'x' :: rest | '0' :: 'X' :: rest => readBased 16 rest
  | '0' :: 'o' :: rest | '0' :: 'O' :: rest => readBased 8 rest
  | '0' :: 'b' :: rest | '0' :: 'B' :: rest => readBased 2 rest
  | '.' :: c :: _ => do
    guard c.isDigit
    return (.inexact, ← afterFraction? cs)
  | _ =>
    let (digits, rest) := readDigits Char.isDigit cs
    if digits = [] then none
    else match afterFraction? rest with
      | some rest => some (.inexact, rest)
      | none =>
        if digits.head? = some '0' ∧ digits.any (· ≠ '0') then none
        else some (.integer (digitsValue 10 digits), rest)

/-- A number with any number of signs, blanks after them allowed. -/
def readNumber : List Char → Option (Literal × List Char)
  | ' ' :: rest => readNumber rest
  | '+' :: rest => readNumber rest
  | '-' :: rest => do
    match ← readNumber rest with
    | (.integer n, rest) => return (.integer (-n), rest)
    | other => return other
  | cs => readUnsigned cs

/-- The sum of two numbers, exact if both are integers. -/
def plus : Literal → Literal → Literal
  | integer m, integer n => integer (m + n)
  | _, _ => inexact

/-- Adds the signed numbers that follow to a number. -/
def readTerms : (fuel : Nat) → Literal → List Char → Option (Literal × List Char)
  | 0, _, _ => none
  | fuel + 1, value, cs =>
    match skipSpace cs with
    | '+' :: rest => do
      let (term, rest) ← readNumber ('+' :: rest)
      readTerms fuel (plus value term) rest
    | '-' :: rest => do
      let (term, rest) ← readNumber ('-' :: rest)
      readTerms fuel (plus value term) rest
    | _ => some (value, cs)

/-- Reads a number and the signed numbers that are added to it. -/
def readSum (cs : List Char) : Option (Literal × List Char) := do
  let (value, rest) ← readNumber cs
  readTerms (rest.length + 1) value rest

/-! ## Values -/

/-- What brackets enclose: items, each alone or with a value after a colon, and whether a comma
follows the last. -/
structure Enclosed where
  items : List (Literal × Option Literal)
  isCommaLast : Bool

/-- A tuple, which has a comma unless it is empty. -/
def Enclosed.tuple? (e : Enclosed) : Option Literal := do
  guard (e.items.all (·.2.isNone) && (e.items.length != 1 || e.isCommaLast))
  return .tuple (e.items.map (·.1))

/-- A list, whose items have no values. -/
def Enclosed.list? (e : Enclosed) : Option Literal := do
  guard (e.items.all (·.2.isNone))
  return .list (e.items.map (·.1))

/-- A dictionary, or a set if no item has a value. -/
def Enclosed.dictionary? (e : Enclosed) : Option Literal :=
  match e.items.mapM fun item => item.2.map (item.1, ·) with
  | some items => some (.dictionary items)
  | none => do
    guard (e.items.all (·.2.isNone))
    return .set (e.items.map (·.1))

/-- Reads an item between brackets, one value or two with a colon between them, and the blanks
after it. -/
def readItem (readValue : List Char → Option (Literal × List Char)) (cs : List Char) :
    Option ((Literal × Option Literal) × List Char) := do
  let (key, rest) ← readValue cs
  match skipSpace rest with
  | ':' :: rest => do
    let (value, rest) ← readValue (skipSpace rest)
    return ((key, some value), skipSpace rest)
  | rest => return ((key, none), rest)

mutual

/-- Reads one literal from the start of a text; `fuel` bounds the depth of brackets and the number
of items. -/
def readValue : (fuel : Nat) → List Char → Option (Literal × List Char)
  | 0, _ => none
  | fuel + 1, cs =>
    match cs with
    | '(' :: rest => do
      let (e, rest) ← readEnclosed fuel ')' (skipSpace rest)
      return (← e.tuple?, rest)
    | '[' :: rest => do
      let (e, rest) ← readEnclosed fuel ']' (skipSpace rest)
      return (← e.list?, rest)
    | '\x7b' :: rest => do
      let (e, rest) ← readEnclosed fuel '\x7d' (skipSpace rest)
      return (← e.dictionary?, rest)
    | 'b' :: '\'' :: rest | 'B' :: '\'' :: rest => do
      let (chars, rest) ← readQuoted '\'' rest
      return (.bytes chars, rest)
    | 'b' :: '"' :: rest | 'B' :: '"' :: rest => do
      let (chars, rest) ← readQuoted '"' rest
      return (.bytes chars, rest)
    | '\'' :: rest => do
      let (chars, rest) ← readQuoted '\'' rest
      return (.text chars, rest)
    | '"' :: rest => do
      let (chars, rest) ← readQuoted '"' rest
      return (.text chars, rest)
    | 'T' :: 'r' :: 'u' :: 'e' :: rest => some (.boolean true, rest)
    | 'F' :: 'a' :: 'l' :: 's' :: 'e' :: rest => some (.boolean false, rest)
    | 'N' :: 'o' :: 'n' :: 'e' :: rest => some (.nothing, rest)
    | cs => readSum cs

/-- Reads the items before a closing bracket, and the bracket. -/
def readEnclosed : (fuel : Nat) → (close : Char) → List Char → Option (Enclosed × List Char)
  | 0, _, _ => none
  | fuel + 1, close, cs =>
    match cs with
    | [] => none
    | c :: rest =>
      if c = close then some (⟨[], false⟩, rest)
      else do
        let (item, rest) ← readItem (readValue fuel) (c :: rest)
        match rest with
        | ',' :: rest => do
          let (e, rest) ← readEnclosed fuel close (skipSpace rest)
          return (⟨item :: e.items, e.items.isEmpty || e.isCommaLast⟩, rest)
        | c :: rest =>
          guard (c = close)
          return (⟨[item], false⟩, rest)
        | [] => none

end

/-- The literal that a text consists of, blanks before and after it apart. -/
def read? (cs : List Char) : Option Literal := do
  let (value, rest) ← readValue (2 * cs.length + 2) (cs.dropWhile isBlank)
  guard (rest.all isBlank)
  return value

end Literal

end CrossEntropy
