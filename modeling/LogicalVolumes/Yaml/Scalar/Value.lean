import LogicalVolumes.Number.Binary64

/-!
What a plain scalar stands for: nothing, a truth value, a number, or else its own text. Digits with a
leading zero are no number.
-/

namespace LogicalVolumes.Yaml

open LogicalVolumes.Text LogicalVolumes.Number

inductive Value
  | null
  | boolean (value : Bool)
  | integer (value : Int)
  | decimal (value : Binary64)
  | text

def isNullWord (s : List Char) : Bool :=
  ["null", "Null", "NULL", "~"].contains (String.ofList s)

def boolean? (s : List Char) : Option Bool :=
  [("true", true), ("True", true), ("TRUE", true),
    ("false", false), ("False", false), ("FALSE", false)].lookup (String.ofList s)

def isSign (c : Char) : Bool :=
  c == '+' || c == '-'

/-- Digits after a leading zero, a sign aside. -/
def isPadded (s : List Char) : Bool :=
  let digits := if s.head?.any isSign then s.drop 1 else s
  digits.head? == some '0' && 1 < digits.length && digits.all isAsciiDigit

/-- The base that a number's first characters give, and its digits. -/
def based : List Char → Nat × List Char
  | '0' :: 'x' :: s => (16, s)
  | '0' :: 'o' :: s => (8, s)
  | '0' :: 'b' :: s => (2, s)
  | s => (10, s)

/-- The size of a whole number without a sign. -/
def magnitude? (s : List Char) : Option Nat :=
  let (base, digits) := based s
  readNatural base digits

/-- A whole number without a minus sign. -/
def unsigned? (s : List Char) : Option Nat :=
  if isPadded s then none else magnitude? (if s.head? = some '+' then s.drop 1 else s)

def negative? : List Char → Option Int
  | '-' :: s => if isPadded s then none else (magnitude? s).map fun n => -(n : Int)
  | _ => none

/-- A whole number of at most 128 bits. -/
def integer? (s : List Char) : Option Int :=
  match unsigned? s, negative? s with
  | some n, _ => if n < Nat.pow 2 128 then some n else none
  | none, some n => if -(Int.pow 2 127) ≤ n then some n else none
  | none, none => none

/-- The power of ten at the end of a number, if there is one. -/
def exponent? : List Char → Option Int
  | [] => some 0
  | c :: s => if c = 'e' ∨ c = 'E' then readSigned 10 s else none

/-- Digits with or without a point, at least one, and perhaps a power of ten. -/
def decimal? (negative : Bool) (s : List Char) : Option Binary64 := do
  let whole := s.takeWhile isAsciiDigit
  let rest := s.dropWhile isAsciiDigit
  let (fraction, rest) := match rest with
    | '.' :: rest => (rest.takeWhile isAsciiDigit, rest.dropWhile isAsciiDigit)
    | rest => ([], rest)
  let digits ← readNatural 10 (whole ++ fraction)
  let exponent ← exponent? rest
  let number := Binary64.ofDecimal negative digits (exponent - fraction.length)
  if number.isFinite then pure number else none

def isInfinityWord (s : List Char) : Bool :=
  [".inf", ".Inf", ".INF"].contains (String.ofList s)

def isUndefinedWord (s : List Char) : Bool :=
  [".nan", ".NaN", ".NAN"].contains (String.ofList s)

def float? (s : List Char) : Option Binary64 :=
  let (negative, body) := match s with
    | '+' :: s => (false, s)
    | '-' :: s => (true, s)
    | s => (false, s)
  if isInfinityWord body then some (.infinite negative)
  else if isUndefinedWord s then some .undefined
  else decimal? negative body

/-- Floating-point numbers are written without an exponent. -/
def floatStyle : FloatStyle :=
  ⟨fun _ => true, .up⟩

def Value.ofPlain (s : List Char) : Value :=
  if s.isEmpty || isNullWord s then .null
  else match boolean? s with
    | some b => .boolean b
    | none =>
      match integer? s with
      | some n => .integer n
      | none =>
        if isPadded s then .text
        else match float? s with
          | some x => .decimal x
          | none => .text

end LogicalVolumes.Yaml
