import LogicalVolumes.Number.Binary64

/-!
JSON values. Whole numbers that fit 64 bits, with or without a sign, are kept exactly; any other number is
the nearest one in binary floating point.
-/

namespace LogicalVolumes

inductive Json
  | null
  | boolean (value : Bool)
  | integer (value : Int)
  | decimal (value : Number.Binary64)
  | text (value : String)
  | list (items : List Json)
  | object (members : List (String × Json))

namespace Json

def word (value : UInt64) : Json :=
  .integer value.toNat

def byte (value : UInt8) : Json :=
  .integer value.toNat

def texts (values : List String) : Json :=
  .list (values.map .text)

def optional {α : Type} (encode : α → Json) : Option α → Json
  | none => .null
  | some value => encode value

/-- The member called `name`, or `null` where there is none. -/
def member (name : String) : Json → Json
  | .object members => (members.lookup name).getD .null
  | _ => .null

end Json

end LogicalVolumes
