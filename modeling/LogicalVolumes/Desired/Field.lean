import LogicalVolumes.Decode.Mismatch
import LogicalVolumes.Desired.Basic

/-!
The fields of a desired state with the names they go by in documents, and a state of which only some fields
have been read. A field is given at most once, under any one of its names.
-/

namespace LogicalVolumes.DesiredState

inductive Field
  | groupName
  | volumeName
  | volumeType
  | size
  | copies
  | policy
  | extraOptions
  | physicalVolumes
  | presence
  deriving DecidableEq

namespace Field

def all : List Field :=
  [groupName, volumeName, volumeType, size, copies, policy, extraOptions, physicalVolumes, presence]

def name : Field → String
  | groupName => "group_name"
  | volumeName => "volume_name"
  | volumeType => "volume_type"
  | size => "size"
  | copies => "copies"
  | policy => "policy"
  | extraOptions => "extra_options"
  | physicalVolumes => "physical_volumes"
  | presence => "presence"

/-- The shorter name of a field that has one. -/
def alias? : Field → Option String
  | groupName => some "vg"
  | volumeName => some "lv"
  | volumeType => some "lv_type"
  | extraOptions => some "opts"
  | physicalVolumes => some "pvs"
  | presence => some "state"
  | size | copies | policy => none

/-- Every name of the field, in alphabetical order. -/
def names (field : Field) : List String :=
  match field.alias? with
  | none => [field.name]
  | some short => if short < field.name then [short, field.name] else [field.name, short]

def knownNames : List String :=
  all.flatMap names

def ofName? (name : String) : Option Field :=
  all.find? fun field => field.names.contains name

end Field

/-- The fields read so far. -/
structure Draft where
  groupName : Option String := none
  volumeName : Option String := none
  volumeType : Option String := none
  size : Option (Option String) := none
  copies : Option UInt8 := none
  policy : Option PlacementPolicy := none
  extraOptions : Option String := none
  physicalVolumes : Option (List String) := none
  presence : Option Presence := none

/-- How values of each kind are read from a document with values `ν` and errors `ε`. -/
structure ValueReader (ν ε : Type) where
  text : ν → Except ε String
  optionalText : ν → Except ε (Option String)
  byte : ν → Except ε UInt8
  texts : ν → Except ε (List String)
  policy : ν → Except ε PlacementPolicy
  presence : ν → Except ε Presence

namespace Draft

def has (draft : Draft) : Field → Bool
  | .groupName => draft.groupName.isSome
  | .volumeName => draft.volumeName.isSome
  | .volumeType => draft.volumeType.isSome
  | .size => draft.size.isSome
  | .copies => draft.copies.isSome
  | .policy => draft.policy.isSome
  | .extraOptions => draft.extraOptions.isSome
  | .physicalVolumes => draft.physicalVolumes.isSome
  | .presence => draft.presence.isSome

variable {ν ε : Type}

/-- Reads the value of one field. -/
def put (reader : ValueReader ν ε) (draft : Draft) (field : Field) (value : ν) : Except ε Draft :=
  match field with
  | .groupName => (reader.text value).map fun x => { draft with groupName := some x }
  | .volumeName => (reader.text value).map fun x => { draft with volumeName := some x }
  | .volumeType => (reader.text value).map fun x => { draft with volumeType := some x }
  | .size => (reader.optionalText value).map fun x => { draft with size := some x }
  | .copies => (reader.byte value).map fun x => { draft with copies := some x }
  | .policy => (reader.policy value).map fun x => { draft with policy := some x }
  | .extraOptions => (reader.text value).map fun x => { draft with extraOptions := some x }
  | .physicalVolumes => (reader.texts value).map fun x => { draft with physicalVolumes := some x }
  | .presence => (reader.presence value).map fun x => { draft with presence := some x }

/-- The whole state; a field that has not been read has the value it has when only names are given. -/
def finish (draft : Draft) : Except Mismatch DesiredState :=
  match draft.groupName, draft.volumeName with
  | none, _ => .error (.missingField Field.groupName.name)
  | some _, none => .error (.missingField Field.volumeName.name)
  | some groupName, some volumeName =>
    let plain := ofNames groupName volumeName
    .ok {
      groupName := groupName
      volumeName := volumeName
      volumeType := draft.volumeType.getD plain.volumeType
      size := draft.size.getD plain.size
      copies := draft.copies.getD plain.copies
      policy := draft.policy.getD plain.policy
      extraOptions := draft.extraOptions.getD plain.extraOptions
      physicalVolumes := draft.physicalVolumes.getD plain.physicalVolumes
      presence := draft.presence.getD plain.presence }

end Draft

end LogicalVolumes.DesiredState
