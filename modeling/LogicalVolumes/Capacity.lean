import LogicalVolumes.Fault
import LogicalVolumes.Number.Word
import LogicalVolumes.Text.Blank

/-!
Sizes as they are asked for, such as `512M` or `2g`, in megabytes, and their alignment to whole physical
partitions.
-/

namespace LogicalVolumes

inductive SizeUnit
  | mega
  | giga
  | tera
  deriving DecidableEq

namespace SizeUnit

def ofLetter? (c : Char) : Option SizeUnit :=
  if c = 'M' ∨ c = 'm' then some .mega
  else if c = 'G' ∨ c = 'g' then some .giga
  else if c = 'T' ∨ c = 't' then some .tera
  else none

/-- The megabytes in one unit. -/
def factor : SizeUnit → Megabytes
  | .mega => 1
  | .giga => 1024
  | .tera => 1024 * 1024

end SizeUnit

/-- Reads a whole number above zero and the letter of its unit, blanks around them aside. -/
def convertSize (text : String) : Except Fault Megabytes :=
  let size := Text.trim text.toList
  match size.getLast? with
  | none => .error (.invalidSize (String.ofList size))
  | some letter =>
    match SizeUnit.ofLetter? letter with
    | none => .error (.unknownUnit (String.ofList size))
    | some unit =>
      match Text.readWord size.dropLast with
      | none => .error (.invalidSize (String.ofList size))
      | some value =>
        if value = 0 then .error (.invalidSize (String.ofList size))
        else match Number.product? value unit.factor with
          | none => .error (.invalidSize (String.ofList size))
          | some result => .ok result

/-- The whole quotient nearest to `value / base`, a half going to the even one. -/
def nearestQuotient (value base : Megabytes) : Megabytes :=
  let quotient := value / base
  let remainder := value % base
  if base - remainder < remainder ∨ (remainder = base - remainder ∧ quotient % 2 = 1) then quotient + 1
  else quotient

/-- Aligns `value` to the nearest multiple of `base` and, when that falls short, to the next one. -/
def alignToUnit (value base : Megabytes) : Option Megabytes :=
  if base = 0 then some value
  else match Number.product? (nearestQuotient value base) base with
    | none => none
    | some rounded => if rounded < value then Number.sum? rounded base else some rounded

/-- The aligned size that a text asks for. -/
def targetSize (text : String) (unitSize : Megabytes) : Except Fault Megabytes :=
  match convertSize text with
  | .error fault => .error fault
  | .ok value =>
    match alignToUnit value unitSize with
    | none => .error (.invalidSize text)
    | some aligned => .ok aligned

end LogicalVolumes
