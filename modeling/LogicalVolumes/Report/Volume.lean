import LogicalVolumes.Capacity
import LogicalVolumes.Facts
import LogicalVolumes.Report.Label
import LogicalVolumes.Text.Line

/-!
The report on a logical volume, read by the same rule as that on a group. The volume's own name and that of
its group stand on one line.
-/

namespace LogicalVolumes

open Report Text

/-- What one line of the report says. -/
inductive VolumeEntry
  | names (volume group : String)
  | partitions (figure : Option UInt64)
  | unitSize (figure : Option Megabytes)
  | policy (word : String)
  deriving DecidableEq

/-- A word that blanks end, then the group's label and a word. -/
def namePair? (s : List Char) : Option (List Char × List Char) := do
  let (volume, s) ← spacedRun? isWord s
  let s ← pastBlanks? s
  let s ← after? "VOLUME GROUP:".toList s
  let (group, _) ← spacedRun? isWord s
  pure (volume, group)

/-- A figure that the label of the physical partitions follows, near or far. -/
def partitionFigure? (s : List Char) : Option (List Char) := do
  let (digits, s) ← spacedRun? isDigit s
  let _ ← (afterEach "PPs".toList s).head?
  pure digits

def VolumeEntry.ofLine? (line : List Char) : Option VolumeEntry :=
  (((afterEach "LOGICAL VOLUME:".toList line).findSome? namePair?).map fun (volume, group) =>
    .names (String.ofList volume) (String.ofList group))
  <|> (((afterEach "LPs:".toList line).findSome? partitionFigure?).map fun digits =>
    .partitions (readWord digits))
  <|> ((labelled? isDigit "PP SIZE:".toList line).map fun digits => .unitSize (readWord digits))
  <|> ((labelled? isWord "INTER-POLICY:".toList line).map fun word => .policy (String.ofList word))

/-- What has been found in the report so far. -/
structure VolumeRecord where
  name : Option String := none
  groupName : Option String := none
  partitions : Option UInt64 := none
  unitSize : Option Megabytes := none
  policy : Option String := none
  deriving DecidableEq

namespace VolumeRecord

def note (record : VolumeRecord) : VolumeEntry → VolumeRecord
  | .names volume group => { record with name := some volume, groupName := some group }
  | .partitions figure => { record with partitions := figure }
  | .unitSize figure => { record with unitSize := figure }
  | .policy word => { record with policy := some word }

def scan (report : String) : VolumeRecord :=
  ((lines report.toList).filterMap VolumeEntry.ofLine?).foldl note {}

/-- The facts of a finished record; a report that names no volume is about none. -/
def finish (record : VolumeRecord) : Except Fault (Option VolumeFacts) :=
  match record.name with
  | none => .ok none
  | some name =>
    match record.groupName with
    | none => .error (.incompleteReport .volume name .groupName)
    | some groupName =>
      match record.partitions with
      | none => .error (.incompleteReport .volume name .logicalPartitions)
      | some partitions =>
        match record.unitSize with
        | none => .error (.incompleteReport .volume name .unitSize)
        | some unitSize =>
          match record.policy.bind fun word => (PlacementPolicy.ofText word).toOption with
          | none => .error (.incompleteReport .volume name .policy)
          | some policy =>
            match Number.product? partitions unitSize with
            | none => .error (.figureOutOfRange .volume name .logicalPartitions)
            | some size => .ok (some { name, groupName, size, policy })

end VolumeRecord

def VolumeFacts.ofReport (report : String) : Except Fault (Option VolumeFacts) :=
  (VolumeRecord.scan report).finish

end LogicalVolumes
