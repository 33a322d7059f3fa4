import LogicalVolumes.Decode.Record
import LogicalVolumes.Facts

/-!
Facts of groups and volumes as JSON.
-/

namespace LogicalVolumes

open Json

def tooLongArray (_ : Nat) : String :=
  "fewer elements in array"

namespace GroupFacts

def shape : RecordShape where
  title := "struct VolumeGroupFacts"
  fields := [field "name" toText, field "total_capacity" toWord, field "free_capacity" toWord,
    field "allocation_unit_size" toWord]
  tooLong := tooLongArray

def ofJson (value : Json) : Except Mismatch GroupFacts := do
  let members ← shape.open value
  let name ← members.get "name" toText
  let totalCapacity ← members.get "total_capacity" toWord
  let freeCapacity ← members.get "free_capacity" toWord
  let unitSize ← members.get "allocation_unit_size" toWord
  pure { name, totalCapacity, freeCapacity, unitSize }

def toJson (facts : GroupFacts) : Json :=
  .object [("name", .text facts.name), ("total_capacity", .word facts.totalCapacity),
    ("free_capacity", .word facts.freeCapacity), ("allocation_unit_size", .word facts.unitSize)]

end GroupFacts

namespace VolumeFacts

def shape : RecordShape where
  title := "struct LogicalVolumeFacts"
  fields := [field "name" toText, field "group_name" toText, field "size" toWord,
    field "policy" (PlacementPolicy.ofJson .direct)]
  tooLong := tooLongArray

def ofJson (value : Json) : Except Mismatch VolumeFacts := do
  let members ← shape.open value
  let name ← members.get "name" toText
  let groupName ← members.get "group_name" toText
  let size ← members.get "size" toWord
  let policy ← members.get "policy" (PlacementPolicy.ofJson .direct)
  pure { name, groupName, size, policy }

def toJson (facts : VolumeFacts) : Json :=
  .object [("name", .text facts.name), ("group_name", .text facts.groupName), ("size", .word facts.size),
    ("policy", facts.policy.toJson)]

end VolumeFacts

end LogicalVolumes
