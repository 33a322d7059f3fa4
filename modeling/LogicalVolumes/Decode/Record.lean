import LogicalVolumes.Decode.Value

/-!
Reading records out of JSON values. A record is an object with the fields in any order, or a list with the
fields in the order of their declaration. The first field that is not of its type is reported before any
field that is missing; fields that are not known are passed over.
-/

namespace LogicalVolumes.Json

/-- A field with the test that its values must pass. -/
structure FieldShape where
  name : String
  check : Json → Except Mismatch Unit

/-- A field whose values `decode` reads. -/
def field {α : Type} (name : String) (decode : Json → Except Mismatch α) : FieldShape where
  name := name
  check value := (decode value).map fun _ => ()

/-- A record's name in messages, its fields, and what is said of a list that is too long for it. -/
structure RecordShape where
  title : String
  fields : List FieldShape
  tooLong : Nat → String

/-- The members that belong to a record, each of its type. -/
abbrev Members := List (String × Json)

def count (n : Nat) (things : String) : String :=
  Text.inDigits n ++ " " ++ things ++ (if n = 1 then "" else "s")

def RecordShape.checkMembers (shape : RecordShape) : Members → Except Mismatch Unit
  | [] => .ok ()
  | (name, value) :: members =>
    match shape.fields.find? (·.name == name) with
    | none => shape.checkMembers members
    | some field => (field.check value).bind fun _ => shape.checkMembers members

/-- The first field that no member fills. -/
def RecordShape.missing? (shape : RecordShape) (members : Members) : Option FieldShape :=
  shape.fields.find? fun field => (members.lookup field.name).isNone

/-- The members of an object, checked. `before` counts the items of a list that went before its fields. -/
def RecordShape.openObject (shape : RecordShape) (members : Members) : Except Mismatch Members :=
  match shape.checkMembers members with
  | .error mismatch => .error mismatch
  | .ok () =>
    match shape.missing? members with
    | some field => .error (.missingField field.name)
    | none => .ok members

/-- The items of a list as members, checked. -/
def RecordShape.openList (shape : RecordShape) (items : List Json) : Except Mismatch Members :=
  let members := (shape.fields.map (·.name)).zip items
  match shape.checkMembers members with
  | .error mismatch => .error mismatch
  | .ok () =>
    if items.length < shape.fields.length then
      .error (.invalidLength items.length (shape.title ++ " with " ++ count shape.fields.length "element"))
    else if shape.fields.length < items.length then
      .error (.invalidLength items.length (shape.tooLong shape.fields.length))
    else .ok members

def RecordShape.open (shape : RecordShape) : Json → Except Mismatch Members
  | .object members => shape.openObject members
  | .list items => shape.openList items
  | value => value.mistyped shape.title

/-- One field of a record that has been opened. -/
def Members.get {α : Type} (members : Members) (name : String) (decode : Json → Except Mismatch α) :
    Except Mismatch α :=
  match members.lookup name with
  | some value => decode value
  | none => .error (.missingField name)

end LogicalVolumes.Json
