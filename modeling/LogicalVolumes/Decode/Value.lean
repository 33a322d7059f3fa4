import LogicalVolumes.Decode.Mismatch
import LogicalVolumes.Desired.Basic
import LogicalVolumes.Json.Print
import LogicalVolumes.Number.Word

/-!
Reading plain types out of JSON values. A word of an enumeration may also be written as an object whose one
member it names; what that member holds must then be empty.
-/

namespace LogicalVolumes.Json

/-- How a value is called in a message. -/
def found : Json → Found
  | .null => .null
  | .boolean value => .boolean value
  | .integer value => .integer value
  | .decimal value => .decimal (String.ofList (value.text floatStyle))
  | .text value => .text value
  | .list _ => .sequence
  | .object _ => .map

def mistyped {α : Type} (value : Json) (expected : String) : Except Mismatch α :=
  .error (.invalidType value.found expected)

def toText : Json → Except Mismatch String
  | .text value => .ok value
  | value => value.mistyped "a string"

def toOptionalText : Json → Except Mismatch (Option String)
  | .null => .ok none
  | .text value => .ok (some value)
  | value => value.mistyped "a string"

def toWord : Json → Except Mismatch UInt64
  | .integer n =>
    match n.toNat?.bind Number.word? with
    | some word => .ok word
    | none => .error (.invalidValue (.integer n) "u64")
  | value => value.mistyped "u64"

def toByte : Json → Except Mismatch UInt8
  | .integer n =>
    match n.toNat?.bind Number.byte? with
    | some byte => .ok byte
    | none => .error (.invalidValue (.integer n) "u8")
  | value => value.mistyped "u8"

def toTexts : Json → Except Mismatch (List String)
  | .list items => items.mapM toText
  | value => value.mistyped "a sequence"

/-- Whether a document gives its values as they are read, or only after they have been set aside to find
the tag of the value around them. An empty object counts as empty only when set aside. -/
inductive Reading
  | direct
  | setAside
  deriving DecidableEq

def requireEmpty (reading : Reading) : Json → Except Mismatch Unit
  | .null => .ok ()
  | .object [] => if reading = .setAside then .ok () else (Json.object []).mistyped "unit"
  | value => value.mistyped "unit"

/-- The words of an enumeration with what they stand for. -/
abbrev Vocabulary (α : Type) := List (String × α)

def Vocabulary.find {α : Type} (words : Vocabulary α) (word : String) : Except Mismatch α :=
  match words.lookup word with
  | some value => .ok value
  | none => .error (.unknownVariant word (words.map (·.1)))

def toChoice {α : Type} (words : Vocabulary α) (reading : Reading) : Json → Except Mismatch α
  | .text word => words.find word
  | .object [(word, content)] =>
    match words.find word with
    | .error mismatch => .error mismatch
    | .ok value => (content.requireEmpty reading).map fun _ => value
  | .object _ => .error (.invalidValue .map "map with a single key")
  | value => value.mistyped "string or map"

end LogicalVolumes.Json

namespace LogicalVolumes

namespace PlacementPolicy

def vocabulary : Json.Vocabulary PlacementPolicy :=
  [("maximum", .maximum), ("minimum", .minimum)]

def ofJson (reading : Json.Reading) (value : Json) : Except Mismatch PlacementPolicy :=
  value.toChoice vocabulary reading

def toJson (policy : PlacementPolicy) : Json :=
  .text policy.word

end PlacementPolicy

namespace Presence

def vocabulary : Json.Vocabulary Presence :=
  [("present", .present), ("absent", .absent)]

def ofJson (reading : Json.Reading) (value : Json) : Except Mismatch Presence :=
  value.toChoice vocabulary reading

def toJson (presence : Presence) : Json :=
  .text presence.word

end Presence

end LogicalVolumes
