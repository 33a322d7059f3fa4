import LogicalVolumes.Policy
import LogicalVolumes.Presence

/-!
The state that one logical volume should have, and which states can be asked for at all.
-/

namespace LogicalVolumes

abbrev Megabytes := UInt64

structure DesiredState where
  groupName : String
  volumeName : String
  volumeType : String
  size : Option String
  copies : UInt8
  policy : PlacementPolicy
  extraOptions : String
  physicalVolumes : List String
  presence : Presence
  deriving DecidableEq

namespace DesiredState

/-- The state with every optional part left out. -/
def ofNames (groupName volumeName : String) : DesiredState where
  groupName := groupName
  volumeName := volumeName
  volumeType := "jfs2"
  size := none
  copies := 1
  policy := .maximum
  extraOptions := ""
  physicalVolumes := []
  presence := .present

def isUnnamed (name : String) : Bool :=
  (Text.trim name.toList).isEmpty

/-- Refuses the states that no command could express. -/
def validate (desired : DesiredState) : Except Misconfiguration Unit :=
  if isUnnamed desired.groupName then .error .groupNameMissing
  else if isUnnamed desired.volumeName then .error .volumeNameMissing
  else if desired.copies < 1 ∨ 3 < desired.copies then .error (.copiesOutOfRange desired.copies)
  else .ok ()

/-- The physical volumes named in lists with commas: the pieces without blanks around them, none empty. -/
def splitPhysicalVolumes (values : List String) : List String :=
  let names := values.flatMap fun value => (Text.pieces (· == ',') value.toList).map Text.trim
  (names.filter fun name => !name.isEmpty).map String.ofList

end DesiredState

end LogicalVolumes
