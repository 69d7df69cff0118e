import BareCode.JsonValue
/-! # Reading JSON — the values that JSON text stands for

    A reader for the values of `JsonValue`, from left to right: it takes a value off the
    front of a text and hands back what follows.  It takes JSON as anyone may write it,
    with white space between the pieces, every escape of a string and surrogate pairs, and
    refuses what is no JSON and the values that are not needed here.

    Values nest, so the readers of values, items and fields call each other.  Every call in
    such a chain is paid for by a bracket or another mark of the text, so no chain is longer
    than the text, and `read?` allows for that many calls. -/

namespace BareCode.JsonValue

/-! ## Strings -/

/-- The digit that a character stands for in hexadecimal, in either case. -/
def hexDigit? (c : Char) : Option Nat :=
  if '0' ≤ c ∧ c ≤ '9' then some (c.toNat - '0'.toNat)
  else if 'a' ≤ c ∧ c ≤ 'f' then some (c.toNat - 'a'.toNat + 10)
  else if 'A' ≤ c ∧ c ≤ 'F' then some (c.toNat - 'A'.toNat + 10)
  else none

/-- The number that hexadecimal digits write. -/
def hexNumber? (digits : Text) : Option Nat :=
  digits.foldlM (fun n c => (hexDigit? c).map (16 * n + ·)) 0

/-- The character that a letter behind a backslash stands for. -/
def escaped? : Char → Option Char
  | '"' => some '"'
  | '\\' => some '\\'
  | '/' => some '/'
  | 'b' => some '\x08'
  | 'f' => some '\x0c'
  | 'n' => some '\n'
  | 'r' => some '\r'
  | 't' => some '\t'
  | _ => none

/-- The character of two code units, if they are the halves of a surrogate pair. -/
def pairChar? (high low : Nat) : Option Char :=
  if 0xD800 ≤ high ∧ high ≤ 0xDBFF ∧ 0xDC00 ≤ low ∧ low ≤ 0xDFFF then
    some (Char.ofNat (0x10000 + (high - 0xD800) * 0x400 + (low - 0xDC00)))
  else none

/-- Read a string behind its opening quotation mark: its text, and what follows its closing
    one. -/
def readString : Text → Option (Text × Text)
  | [] => none
  | '"' :: t => some ([], t)
  | '\\' :: 'u' :: a :: b :: c :: d :: t => do
    let n ← hexNumber? [a, b, c, d]
    if n < 0xD800 ∨ 0xDFFF < n then
      let (s, rest) ← readString t
      some (Char.ofNat n :: s, rest)
    else match t with
      | '\\' :: 'u' :: a :: b :: c :: d :: t => do
        let char ← pairChar? n (← hexNumber? [a, b, c, d])
        let (s, rest) ← readString t
        some (char :: s, rest)
      | _ => none
  | '\\' :: letter :: t => do
    let char ← escaped? letter
    let (s, rest) ← readString t
    some (char :: s, rest)
  | c :: t =>
    if c = '\\' ∨ c.toNat < 0x20 then none
    else do
      let (s, rest) ← readString t
      some (c :: s, rest)

/-! ## Values -/

/-- A text behind the white space in front of it, as JSON counts it. -/
def skipSpace (t : Text) : Text := t.dropWhile fun c => [' ', '\t', '\n', '\r'].contains c

mutual

/-- Read a value, with a bound on the calls. -/
def readValue : Nat → Text → Option (JsonValue × Text)
  | 0, _ => none
  | n + 1, t =>
    match skipSpace t with
    | '"' :: t => do
      let (s, rest) ← readString t
      some (.string s, rest)
    | '[' :: t =>
      match skipSpace t with
      | ']' :: rest => some (.list [], rest)
      | _ => do
        let (items, rest) ← readItems n t
        some (.list items, rest)
    | '\x7b' :: t =>
      match skipSpace t with
      | '\x7d' :: rest => some (.object [], rest)
      | _ => do
        let (fields, rest) ← readFields n t
        some (.object fields, rest)
    | _ => none

/-- Read the items of a list, at least one, up to the bracket that closes it. -/
def readItems : Nat → Text → Option (List JsonValue × Text)
  | 0, _ => none
  | n + 1, t => do
    let (v, t) ← readValue n t
    match skipSpace t with
    | ']' :: rest => some ([v], rest)
    | ',' :: t =>
      let (items, rest) ← readItems n t
      some (v :: items, rest)
    | _ => none

/-- Read the fields of an object, at least one, up to the brace that closes it. -/
def readFields : Nat → Text → Option (List (Text × JsonValue) × Text)
  | 0, _ => none
  | n + 1, t => do
    let (name, v, t) ← readField n t
    match skipSpace t with
    | '\x7d' :: rest => some ([(name, v)], rest)
    | ',' :: t =>
      let (fields, rest) ← readFields n t
      some ((name, v) :: fields, rest)
    | _ => none

/-- Read a field: its name, a colon and its value. -/
def readField : Nat → Text → Option (Text × JsonValue × Text)
  | 0, _ => none
  | n + 1, t =>
    match skipSpace t with
    | '"' :: t => do
      let (name, t) ← readString t
      match skipSpace t with
      | ':' :: t =>
        let (v, rest) ← readValue n t
        some (name, v, rest)
      | _ => none
    | _ => none

end

/-- The value that a text stands for, with nothing but white space behind it. -/
def read? (t : Text) : Option JsonValue := do
  let (v, rest) ← readValue t.length t
  if (skipSpace rest).isEmpty then some v else none

end BareCode.JsonValue
