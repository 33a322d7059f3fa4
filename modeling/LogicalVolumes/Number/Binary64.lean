import LogicalVolumes.Text.Numeral

/-!
Numbers in binary floating point of 64 bits: the number nearest to a decimal fraction, and the fewest
decimal digits that are nearer to a number than to any other.
-/

namespace LogicalVolumes.Number

open LogicalVolumes.Text

/-- A finite number is `mantissa * 2 ^ exponent`, with `mantissa < 2 ^ 53` and `exponent ≥ -1074`. -/
inductive Binary64
  | finite (negative : Bool) (mantissa : Nat) (exponent : Int)
  | infinite (negative : Bool)
  | undefined
  deriving DecidableEq

def Binary64.zero (negative : Bool) : Binary64 :=
  .finite negative 0 (-1074)

/-- The quotient of `num` and `den` as a whole number: the nearest, a half going to the even one. -/
def divToEven (num den : Nat) : Nat :=
  let q := num / den
  let twice := 2 * (num % den)
  if twice > den ∨ (twice = den ∧ q % 2 = 1) then q + 1 else q

/-- The fraction `num * base ^ e` with a whole numerator and denominator. -/
def scaled (num base : Nat) (e : Int) : Nat × Nat :=
  if 0 ≤ e then (num * base.pow e.toNat, 1) else (num, base.pow (-e).toNat)

/-- The nearest number to `num / den * 2 ^ (-q)`. -/
def mantissaAt (num den : Nat) (q : Int) : Nat :=
  let (n, d) := scaled 1 2 (-q)
  divToEven (num * n) (den * d)

/-- The nearest number to `num / den`, for whole `num` and `den` above zero. -/
def Binary64.ofFraction (negative : Bool) (num den : Nat) : Binary64 :=
  let estimate : Int := (num.log2 : Int) - (den.log2 : Int)
  let q := max (estimate - 53) (-1074)
  let q := if mantissaAt num den q < Nat.pow 2 53 then q else q + 1
  let m := mantissaAt num den q
  let (m, q) := if m < Nat.pow 2 53 then (m, q) else (m / 2, q + 1)
  if q > 971 then .infinite negative else .finite negative m q

/-- The nearest number to `digits * 10 ^ exponent`. -/
def Binary64.ofDecimal (negative : Bool) (digits : Nat) (exponent : Int) : Binary64 :=
  let magnitude := (numeral digits).length + exponent
  if digits = 0 ∨ magnitude < -330 then .zero negative
  else if magnitude > 320 then .infinite negative
  else
    let (num, den) := scaled digits 10 exponent
    .ofFraction negative num den

/-- The nearest number to `num / den * 2 ^ e`, for `den` above zero. -/
def Binary64.ofBinaryFraction (negative : Bool) (num den : Nat) (e : Int) : Binary64 :=
  let (n, d) := scaled num 2 e
  if n = 0 then .zero negative else .ofFraction negative n (d * den)

/-- The nearest number to the product of `x` and `10 ^ e`, or for negative `e` to the quotient of `x` and
`10 ^ (-e)`. The power of ten is rounded first. -/
def Binary64.shift : Binary64 → Int → Binary64
  | .finite negative m q, e =>
    match Binary64.ofFraction false (Nat.pow 10 e.natAbs) 1 with
    | .finite _ n p =>
      if e < 0 then .ofBinaryFraction negative m n (q - p) else .ofBinaryFraction negative (m * n) 1 (q + p)
    | _ => if e < 0 then .zero negative else .infinite negative
  | x, _ => x

/-- The greatest power of ten that is a number. -/
def greatestPower : Int :=
  308

/-- A number near to `n * 10 ^ e`. It is reached in steps of at most `greatestPower` places, and since every
step rounds, it need not be the nearest. -/
def Binary64.nearDecimal (negative : Bool) (n : Nat) (e : Int) : Binary64 :=
  let x := Binary64.ofBinaryFraction negative n 1 0
  if n = 0 ∨ e < -2 * greatestPower then .zero negative
  else if e < -greatestPower then (x.shift (-greatestPower)).shift (e + greatestPower)
  else if e ≤ greatestPower then x.shift e
  else .infinite negative

def Binary64.isFinite : Binary64 → Bool
  | .finite .. => true
  | _ => false

/-- Decimal digits with the place of the decimal point, counted from before the first digit. -/
structure Digits where
  digits : List Char
  point : Int

/-- What to do when two decimals of the same length are equally near. -/
inductive Tie
  | toEven
  | up

/-- A positive number with the interval of the decimals that read back as it, all over one denominator. -/
structure Neighbourhood where
  value : Nat
  lower : Nat
  upper : Nat
  den : Nat
  closed : Bool

def neighbourhood (m : Nat) (q : Int) : Neighbourhood :=
  let (n, d) := scaled 1 2 q
  let below := if m = Nat.pow 2 52 ∧ q > -1074 then 1 else 2
  ⟨4 * m * n, (4 * m - below) * n, (4 * m + 2) * n, 4 * d, m % 2 = 0⟩

/-- Whether `k * 10 ^ e` lies in the interval. -/
def Neighbourhood.holds (h : Neighbourhood) (k : Nat) (e : Int) : Bool :=
  let (n, d) := scaled k 10 e
  let x := n * h.den
  if h.closed then h.lower * d ≤ x && x ≤ h.upper * d else h.lower * d < x && x < h.upper * d

/-- The multiple of `10 ^ e` nearest to the value among those in the interval. -/
def Neighbourhood.nearest? (h : Neighbourhood) (tie : Tie) (e : Int) : Option Nat :=
  let (n, d) := scaled 1 10 e
  let num := h.value * d
  let den := h.den * n
  let k := num / den
  let twice := 2 * (num % den)
  let upward := twice > den || (twice == den && match tie with | .up => true | .toEven => k % 2 == 1)
  let (first, second) := if upward then (k + 1, k) else (k, k + 1)
  if h.holds first e then some first else if h.holds second e then some second else none

/-- Tries the grids `10 ^ (magnitude - 1)`, `10 ^ (magnitude - 2)`, … in turn. -/
def Neighbourhood.shortest (h : Neighbourhood) (tie : Tie) : Nat → Int → Nat × Int
  | 0, e => ((h.nearest? tie e).getD 0, e)
  | fuel + 1, e =>
    match h.nearest? tie e with
    | some k => if k = 0 then h.shortest tie fuel (e - 1) else (k, e)
    | none => h.shortest tie fuel (e - 1)

def trimZeros (k : Nat) : List Char :=
  ((numeral k).reverse.dropWhile (· == '0')).reverse

/-- The shortest digits of `m * 2 ^ q`, for `m` above zero. -/
def shortestDigits (tie : Tie) (m : Nat) (q : Int) : Digits :=
  let h := neighbourhood m q
  let magnitude : Int := ((numeral h.value).length : Int) - ((numeral h.den).length : Int)
  let (k, e) := h.shortest tie 20 (magnitude + 1)
  ⟨trimZeros k, (numeral k).length + e⟩

/-- How a number is written: where its point may stand without an exponent, and where ties go. -/
structure FloatStyle where
  positional : Int → Bool
  tie : Tie

def zeros (n : Nat) : List Char :=
  List.replicate n '0'

/-- Digits with a decimal point, at least one digit standing on either side of it. -/
def positionalText (d : Digits) : List Char :=
  let count : Int := d.digits.length
  if d.point ≤ 0 then ['0', '.'] ++ zeros (-d.point).toNat ++ d.digits
  else if count ≤ d.point then d.digits ++ zeros (d.point - count).toNat ++ ['.', '0']
  else d.digits.take d.point.toNat ++ ['.'] ++ d.digits.drop d.point.toNat

/-- Digits with a power of ten, which always has a sign, one digit standing before the point. -/
def exponentText (d : Digits) : List Char :=
  let fraction := match d.digits.drop 1 with
    | [] => []
    | rest => '.' :: rest
  let exponent := d.point - 1
  let sign := if exponent < 0 then '-' else '+'
  d.digits.take 1 ++ fraction ++ 'e' :: sign :: numeral exponent.natAbs

def Binary64.text (style : FloatStyle) : Binary64 → List Char
  | .undefined => ['N', 'a', 'N']
  | .infinite negative => if negative then ['-', 'i', 'n', 'f'] else ['i', 'n', 'f']
  | .finite negative m q =>
    let body :=
      if m = 0 then ['0', '.', '0']
      else
        let d := shortestDigits style.tie m q
        if style.positional d.point then positionalText d else exponentText d
    if negative then '-' :: body else body

end LogicalVolumes.Number
