import LogicalVolumes.Number.Word

/-!
Whole numbers written in the digits 0 to 9. A numeral that is read may carry a plus sign and leading
zeros; a numeral that is written has neither.
-/

namespace LogicalVolumes.Text

def numeral (n : Nat) : List Char :=
  Nat.toDigits 10 n

def inDigits (n : Nat) : String :=
  String.ofList (numeral n)

/-- A whole number with a minus sign if it is below zero. -/
def signedNumeral (n : Int) : List Char :=
  if n < 0 then '-' :: numeral n.natAbs else numeral n.natAbs

def isAsciiDigit (c : Char) : Bool :=
  '0' ≤ c && c ≤ '9'

/-- The value of the digit `c` in the given base, at most sixteen. -/
def digitValue? (base : Nat) (c : Char) : Option Nat :=
  let v :=
    if '0' ≤ c ∧ c ≤ '9' then c.toNat - '0'.toNat
    else if 'a' ≤ c ∧ c ≤ 'f' then c.toNat - 'a'.toNat + 10
    else if 'A' ≤ c ∧ c ≤ 'F' then c.toNat - 'A'.toNat + 10
    else base
  if v < base then some v else none

/-- Reads digits to the end of the text, with the value of those already read. -/
def readDigits (base : Nat) (value : Nat) : List Char → Option Nat
  | [] => some value
  | c :: s => (digitValue? base c).bind fun d => readDigits base (value * base + d) s

/-- Reads decimal digits after those already read, as long as their value stays below `bound`; the others are
left. -/
def readDigitsBelow (bound : Nat) (value : Nat) : List Char → Nat × List Char
  | [] => (value, [])
  | c :: s =>
    match digitValue? 10 c with
    | some d => if value * 10 + d < bound then readDigitsBelow bound (value * 10 + d) s else (value, c :: s)
    | none => (value, c :: s)

/-- Reads one digit or more, and nothing else. -/
def readNatural (base : Nat) : List Char → Option Nat
  | [] => none
  | c :: s => readDigits base 0 (c :: s)

/-- Reads a numeral that may carry a plus sign. -/
def readUnsigned (base : Nat) : List Char → Option Nat
  | '+' :: s => readNatural base s
  | s => readNatural base s

/-- Reads a numeral that may carry a sign. -/
def readSigned (base : Nat) : List Char → Option Int
  | '-' :: s => (readNatural base s).map fun n => -(n : Int)
  | s => (readUnsigned base s).map fun n => (n : Int)

/-- Reads a numeral whose value fits a machine word. -/
def readWord (s : List Char) : Option UInt64 :=
  (readUnsigned 10 s).bind Number.word?

end LogicalVolumes.Text
