import LogicalVolumes.Capacity
import LogicalVolumes.Facts
import LogicalVolumes.Report.Label
import LogicalVolumes.Text.Line

/-!
The report on a volume group. Each line says at most one thing; of two lines that say the same thing the
later counts, also when its figure is out of range and so leaves nothing.
-/

namespace LogicalVolumes

open Report Text

/-- What one line of the report says. -/
inductive GroupEntry
  | name (word : String)
  | totalCapacity (figure : Option Megabytes)
  | unitSize (figure : Option Megabytes)
  | freeCapacity (figure : Option Megabytes)
  deriving DecidableEq

def GroupEntry.ofLine? (line : List Char) : Option GroupEntry :=
  ((labelled? isWord "VOLUME GROUP:".toList line).map fun word => .name (String.ofList word))
  <|> ((labelledBracket? "TOTAL PP".toList line).map fun digits => .totalCapacity (readWord digits))
  <|> ((labelled? isDigit "PP SIZE:".toList line).map fun digits => .unitSize (readWord digits))
  <|> ((labelledBracket? "FREE PP".toList line).map fun digits => .freeCapacity (readWord digits))

/-- What has been found in the report so far. -/
structure GroupRecord where
  name : Option String := none
  totalCapacity : Option Megabytes := none
  freeCapacity : Option Megabytes := none
  unitSize : Option Megabytes := none
  deriving DecidableEq

namespace GroupRecord

def note (record : GroupRecord) : GroupEntry → GroupRecord
  | .name word => { record with name := some word }
  | .totalCapacity figure => { record with totalCapacity := figure }
  | .unitSize figure => { record with unitSize := figure }
  | .freeCapacity figure => { record with freeCapacity := figure }

def scan (report : String) : GroupRecord :=
  ((lines report.toList).filterMap GroupEntry.ofLine?).foldl note {}

/-- The facts of a finished record; a report that names no group is about none. -/
def finish (record : GroupRecord) : Except Fault (Option GroupFacts) :=
  match record.name with
  | none => .ok none
  | some name =>
    match record.unitSize.filter (0 < ·) with
    | none => .error (.incompleteReport .group name .unitSize)
    | some unitSize =>
      match record.totalCapacity with
      | none => .error (.incompleteReport .group name .totalPartitions)
      | some totalCapacity =>
        match record.freeCapacity with
        | none => .error (.incompleteReport .group name .freePartitions)
        | some freeCapacity => .ok (some { name, totalCapacity, freeCapacity, unitSize })

end GroupRecord

def GroupFacts.ofReport (report : String) : Except Fault (Option GroupFacts) :=
  (GroupRecord.scan report).finish

end LogicalVolumes
