import LogicalVolumes.Desired.Basic

/-!
What reports say about a volume group and about a logical volume.
-/

namespace LogicalVolumes

structure GroupFacts where
  name : String
  totalCapacity : Megabytes
  freeCapacity : Megabytes
  /-- The size of one physical partition. -/
  unitSize : Megabytes
  deriving DecidableEq

structure VolumeFacts where
  name : String
  groupName : String
  size : Megabytes
  policy : PlacementPolicy
  deriving DecidableEq

end LogicalVolumes
