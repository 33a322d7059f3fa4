import LogicalVolumes.Desired.Basic

/-!
The one step that a run takes towards the desired state: to keep things as they are, or to make one change.
-/

namespace LogicalVolumes

/-- What a new volume is made with, its names aside. -/
structure VolumeLayout where
  size : Megabytes
  volumeType : String
  copies : UInt8
  policy : PlacementPolicy
  options : String
  physicalVolumes : List String
  deriving DecidableEq

/-- Why there is nothing to do. -/
inductive KeepReason
  | alreadyAbsent
  | alreadyExists
  | sizeMatches (size : Megabytes)
  deriving DecidableEq

inductive Change
  | create (layout : VolumeLayout)
  | delete
  | resize (delta target : Megabytes)
  | setPolicy (policy : PlacementPolicy)
  deriving DecidableEq

inductive Action
  | keep (reason : KeepReason)
  | change (change : Change)
  deriving DecidableEq

end LogicalVolumes
