/-!
UTF-8. A strict reader refuses ill-formed bytes; a lenient one puts the replacement character for each
maximal run of bytes that starts a character and cannot be completed.
-/

namespace LogicalVolumes.Text

/-- What may follow a leading byte: the bounds of the next byte, and how many bytes are to come. -/
structure Lead where
  low : UInt8
  high : UInt8
  following : Nat

def leadOf? (b : UInt8) : Option Lead :=
  if 0xC2 ≤ b ∧ b ≤ 0xDF then some ⟨0x80, 0xBF, 1⟩
  else if b = 0xE0 then some ⟨0xA0, 0xBF, 2⟩
  else if b = 0xED then some ⟨0x80, 0x9F, 2⟩
  else if 0xE1 ≤ b ∧ b ≤ 0xEF then some ⟨0x80, 0xBF, 2⟩
  else if b = 0xF0 then some ⟨0x90, 0xBF, 3⟩
  else if 0xF1 ≤ b ∧ b ≤ 0xF3 then some ⟨0x80, 0xBF, 3⟩
  else if b = 0xF4 then some ⟨0x80, 0x8F, 3⟩
  else none

/-- Where a reader stands: between characters, or inside one with the value of its bits so far. -/
inductive Utf8State
  | between
  | inside (value : Nat) (lead : Lead)

/-- A byte between characters: what it completes (`none` is an ill-formed run) and where it leads. -/
def utf8Start (b : UInt8) : List (Option Char) × Utf8State :=
  if b < 0x80 then ([some (Char.ofNat b.toNat)], .between)
  else match leadOf? b with
    | none => ([none], .between)
    | some lead => ([], .inside (b.toNat % Nat.pow 2 (6 - lead.following)) lead)

def utf8Step : Utf8State → UInt8 → List (Option Char) × Utf8State
  | .between, b => utf8Start b
  | .inside value lead, b =>
    if lead.low ≤ b ∧ b ≤ lead.high then
      let value := value * 64 + (b.toNat - 0x80)
      if lead.following ≤ 1 then ([some (Char.ofNat value)], .between)
      else ([], .inside value ⟨0x80, 0xBF, lead.following - 1⟩)
    else
      let (out, next) := utf8Start b
      (none :: out, next)

/-- The characters of `bytes`, with `none` for each ill-formed run. -/
def utf8Characters : Utf8State → List UInt8 → List (Option Char)
  | .between, [] => []
  | .inside _ _, [] => [none]
  | state, b :: bytes => (utf8Step state b).1 ++ utf8Characters (utf8Step state b).2 bytes

/-- Reads well-formed bytes only. -/
def readUtf8 (bytes : List UInt8) : Option (List Char) :=
  (utf8Characters .between bytes).mapM id

/-- Reads any bytes, with the replacement character for each ill-formed run. -/
def readUtf8Leniently (bytes : List UInt8) : List Char :=
  (utf8Characters .between bytes).map (·.getD (Char.ofNat 0xFFFD))

end LogicalVolumes.Text
