import LogicalVolumes.Capacity
import LogicalVolumes.Facts

/-!
The choice of one action from the desired state and what the reports say. A difference in policy goes before
one in size, and a volume only ever grows.
-/

namespace LogicalVolumes

def planCreation (desired : DesiredState) (group : GroupFacts) : Except Fault Action :=
  match desired.size with
  | none => .error (.sizeMissing desired.volumeName)
  | some text =>
    match targetSize text group.unitSize with
    | .error fault => .error fault
    | .ok size =>
      if group.freeCapacity < size then .error (.insufficientSpace group.name size group.freeCapacity)
      else .ok (.change (.create {
        size := size
        volumeType := desired.volumeType
        copies := desired.copies
        policy := desired.policy
        options := desired.extraOptions
        physicalVolumes := desired.physicalVolumes }))

/-- The partition size of the group is taken for that of the volume. -/
def planUpdate (desired : DesiredState) (group : GroupFacts) (volume : VolumeFacts) : Except Fault Action :=
  if volume.policy ≠ desired.policy then .ok (.change (.setPolicy desired.policy))
  else if volume.groupName ≠ desired.groupName then
    .error (.otherGroup desired.volumeName volume.groupName)
  else match desired.size with
    | none => .ok (.keep .alreadyExists)
    | some text =>
      match targetSize text group.unitSize with
      | .error fault => .error fault
      | .ok target =>
        if volume.size < target then .ok (.change (.resize (target - volume.size) target))
        else if target < volume.size then .error (.shrinkRefused desired.volumeName volume.size target)
        else .ok (.keep (.sizeMatches target))

def plan (desired : DesiredState) (group : GroupFacts) : Option VolumeFacts → Except Fault Action
  | none =>
    match desired.presence with
    | .absent => .ok (.keep .alreadyAbsent)
    | .present => planCreation desired group
  | some volume =>
    match desired.presence with
    | .absent => .ok (.change .delete)
    | .present => planUpdate desired group volume

end LogicalVolumes
