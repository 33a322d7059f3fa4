import LogicalVolumes.Json.Basic

/-!
Reading JSON text. The members of an object are kept in ascending order of their names, and of several with
one name the last is kept.
-/

namespace LogicalVolumes.Json

open LogicalVolumes.Text LogicalVolumes.Number

def isSpace (c : Char) : Bool :=
  c == ' ' || c == '\n' || c == '\r' || c == '\t'

def skipSpace (s : List Char) : List Char :=
  s.dropWhile isSpace

def insertMember (name : String) (value : Json) : List (String × Json) → List (String × Json)
  | [] => [(name, value)]
  | (n, v) :: members =>
    if name < n then (name, value) :: (n, v) :: members
    else if name = n then (name, value) :: members
    else (n, v) :: insertMember name value members

/-- Four hexadecimal digits. -/
def readUnit : List Char → Option (Nat × List Char)
  | a :: b :: c :: d :: s => do
    let n ← readDigits 16 0 [a, b, c, d]
    pure (n, s)
  | _ => none

/-- A character written by its number, or by two surrogates. -/
def readEscapedCode (s : List Char) : Option (Char × List Char) := do
  let (high, s) ← readUnit s
  if 0xD800 ≤ high ∧ high < 0xDC00 then
    match s with
    | '\\' :: 'u' :: s => do
      let (low, s) ← readUnit s
      if 0xDC00 ≤ low ∧ low < 0xE000 then
        pure (Char.ofNat (0x10000 + (high - 0xD800) * 0x400 + (low - 0xDC00)), s)
      else none
    | _ => none
  else if 0xDC00 ≤ high ∧ high < 0xE000 then none
  else pure (Char.ofNat high, s)

/-- What an escape of one letter stands for. -/
def shortEscape? (c : Char) : Option Char :=
  [('"', '"'), ('\\', '\\'), ('/', '/'), ('b', '\x08'), ('f', '\x0c'), ('n', '\n'), ('r', '\r'),
    ('t', '\t')].lookup c

/-- The rest of a string, its opening quote read; `fuel` bounds the characters. -/
def readTextRest : Nat → List Char → List Char → Option (String × List Char)
  | 0, _, _ => none
  | _ + 1, _, [] => none
  | _ + 1, done, '"' :: s => some (String.ofList done.reverse, s)
  | fuel + 1, done, '\\' :: 'u' :: s => do
    let (c, s) ← readEscapedCode s
    readTextRest fuel (c :: done) s
  | fuel + 1, done, '\\' :: e :: s => do
    let c ← shortEscape? e
    readTextRest fuel (c :: done) s
  | fuel + 1, done, c :: s => if c < ' ' then none else readTextRest fuel (c :: done) s

def readText : List Char → Option (String × List Char)
  | '"' :: s => readTextRest (s.length + 1) [] s
  | _ => none

/-- The number `n * 10 ^ e` in floating point; one that is too large is refused. -/
def decimal? (negative : Bool) (n : Nat) (e : Int) : Option Json :=
  let x := Binary64.nearDecimal negative n e
  if x.isFinite then some (.decimal x) else none

/-- A whole number below `2 ^ 64`, or its opposite. -/
def integer? (negative : Bool) (n : Nat) : Option Json :=
  if !negative then some (.integer n)
  else if n = 0 ∨ Nat.pow 2 63 < n then decimal? true n 0
  else some (.integer (-(n : Int)))

/-- The digits of a fraction, if there is one. -/
def readFraction : List Char → Option (List Char × List Char)
  | '.' :: s => if (s.takeWhile isAsciiDigit).isEmpty then none
    else some (s.takeWhile isAsciiDigit, s.dropWhile isAsciiDigit)
  | s => some ([], s)

/-- The power of ten behind a number, if there is one. -/
def readExponent : List Char → Option (Option Int × List Char)
  | [] => some (none, [])
  | c :: s =>
    if c = 'e' ∨ c = 'E' then
      let (negative, s) := match s with
        | '-' :: s => (true, s)
        | '+' :: s => (false, s)
        | s => (false, s)
      match readNatural 10 (s.takeWhile isAsciiDigit) with
      | none => none
      | some n => some (some (if negative then -(n : Int) else n), s.dropWhile isAsciiDigit)
    else some (none, c :: s)

/-- The number that its parts spell. Of the digits before the point and of those behind it only so many count
as fit in 64 bits; a digit that does not count before the point still shifts the others. -/
def numberOf (negative : Bool) (whole fraction : List Char) (exponent : Option Int) : Option Json :=
  let (n, ignored) := readDigitsBelow UInt64.size 0 whole
  if ignored.isEmpty ∧ fraction.isEmpty ∧ exponent.isNone then integer? negative n
  else
    let (n, beyond) := readDigitsBelow UInt64.size n fraction
    let places : Int := fraction.length - beyond.length
    decimal? negative n (exponent.getD 0 + ignored.length - places)

def readUnsignedNumber (negative : Bool) (s : List Char) : Option (Json × List Char) := do
  let whole := s.takeWhile isAsciiDigit
  if whole.isEmpty ∨ (whole.length > 1 ∧ whole.head? = some '0') then none
  else
    let (fraction, s) ← readFraction (s.dropWhile isAsciiDigit)
    let (exponent, s) ← readExponent s
    let number ← numberOf negative whole fraction exponent
    pure (number, s)

def readNumber : List Char → Option (Json × List Char)
  | '-' :: s => readUnsignedNumber true s
  | s => readUnsignedNumber false s

/-- What follows `word`, if the text starts with it. -/
def keyword? (word : List Char) (value : Json) (s : List Char) : Option (Json × List Char) :=
  if word.isPrefixOf s then some (value, s.drop word.length) else none

mutual

def readValue : Nat → List Char → Option (Json × List Char)
  | 0, _ => none
  | fuel + 1, s =>
    match skipSpace s with
    | [] => none
    | '"' :: s => (readText ('"' :: s)).map fun (t, s) => (.text t, s)
    | '[' :: s =>
      match skipSpace s with
      | ']' :: s => some (.list [], s)
      | s => readItems fuel [] s
    | '{' :: s =>
      match skipSpace s with
      | '}' :: s => some (.object [], s)
      | s => readMembers fuel [] s
    | 'n' :: s => keyword? ['n', 'u', 'l', 'l'] .null ('n' :: s)
    | 't' :: s => keyword? ['t', 'r', 'u', 'e'] (.boolean true) ('t' :: s)
    | 'f' :: s => keyword? ['f', 'a', 'l', 's', 'e'] (.boolean false) ('f' :: s)
    | s => readNumber s

/-- One item at least, up to the closing bracket; `done` holds the items before, the last one first. -/
def readItems : Nat → List Json → List Char → Option (Json × List Char)
  | 0, _, _ => none
  | fuel + 1, done, s => do
    let (item, s) ← readValue fuel s
    match skipSpace s with
    | ',' :: s => readItems fuel (item :: done) s
    | ']' :: s => pure (.list (item :: done).reverse, s)
    | _ => none

/-- One member at least, up to the closing brace; `done` holds the members before. -/
def readMembers : Nat → List (String × Json) → List Char → Option (Json × List Char)
  | 0, _, _ => none
  | fuel + 1, done, s => do
    let (name, s) ← readText (skipSpace s)
    match skipSpace s with
    | ':' :: s => do
      let (value, s) ← readValue fuel s
      match skipSpace s with
      | ',' :: s => readMembers fuel (insertMember name value done) s
      | '}' :: s => pure (.object (insertMember name value done), s)
      | _ => none
    | _ => none

end

/-- Reads one value that is the whole text, blanks around it aside. -/
def read (text : String) : Option Json := do
  let s := text.toList
  let (value, rest) ← readValue (s.length + 1) s
  if (skipSpace rest).isEmpty then pure value else none

end LogicalVolumes.Json
