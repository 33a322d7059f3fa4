import LogicalVolumes.Decode.Value
import LogicalVolumes.Desired.Field

/-!
Desired states as JSON: an object with every field under one of its names, or a list of the fields in their
order, whose last ones may be left out as long as they have a default.
-/

namespace LogicalVolumes.DesiredState

def jsonReader : ValueReader Json Mismatch where
  text := Json.toText
  optionalText := Json.toOptionalText
  byte := Json.toByte
  texts := Json.toTexts
  policy := PlacementPolicy.ofJson .direct
  presence := Presence.ofJson .direct

/-- Reads one member of an object. -/
def Draft.putMember (draft : Draft) (member : String × Json) : Except Mismatch Draft :=
  match Field.ofName? member.1 with
  | none => .error (.unknownField member.1 Field.knownNames)
  | some field =>
    if draft.has field then .error (.duplicateField field.name) else draft.put jsonReader field member.2

def ofObject (members : List (String × Json)) : Except Mismatch DesiredState :=
  match members.foldlM Draft.putMember {} with
  | .error mismatch => .error mismatch
  | .ok draft => draft.finish

/-- Reads one item of a list, which belongs to the field at its place. -/
def Draft.putItem (draft : Draft) (item : Field × Json) : Except Mismatch Draft :=
  draft.put jsonReader item.1 item.2

def ofList (items : List Json) : Except Mismatch DesiredState :=
  match (Field.all.zip items).foldlM Draft.putItem {} with
  | .error mismatch => .error mismatch
  | .ok draft =>
    if items.length < 2 then .error (.invalidLength items.length "struct DesiredState with 9 elements")
    else if Field.all.length < items.length then
      .error (.invalidLength items.length "fewer elements in array")
    else draft.finish

def ofJson : Json → Except Mismatch DesiredState
  | .object members => ofObject members
  | .list items => ofList items
  | value => value.mistyped "struct DesiredState"

def toJson (desired : DesiredState) : Json :=
  .object [("group_name", .text desired.groupName), ("volume_name", .text desired.volumeName),
    ("volume_type", .text desired.volumeType), ("size", Json.optional .text desired.size),
    ("copies", .byte desired.copies), ("policy", desired.policy.toJson),
    ("extra_options", .text desired.extraOptions), ("physical_volumes", .texts desired.physicalVolumes),
    ("presence", desired.presence.toJson)]

end LogicalVolumes.DesiredState
