import LogicalVolumes.Plan
import LogicalVolumes.Report.Group
import LogicalVolumes.Report.Volume
import LogicalVolumes.Run.Dialogue
import LogicalVolumes.Run.Outcome

/-!
One run: read the two reports, plan, and make at most one change.
-/

namespace LogicalVolumes

structure RunSettings where
  /-- Show the command that would change something instead of running it. -/
  dryRun : Bool := false
  binaries : Binaries := {}

namespace Dialogue

/-- Ends a run at a fault. -/
def fail {α : Type} (fault : Fault) : Dialogue (Except Fault α) :=
  .done (.error fault)

/-- What the group's report says; a report that fails says nothing. -/
def groupReport (output : CommandOutput) : Except Fault (Option GroupFacts) :=
  if output.succeeded then GroupFacts.ofReport output.stdout else .ok none

/-- What the volume's report says; a report that fails is about no volume. -/
def volumeReport (output : CommandOutput) : Except Fault (Option VolumeFacts) :=
  if output.succeeded then VolumeFacts.ofReport output.stdout else .ok none

/-- Makes a change, or shows it on a dry run. -/
def makeChange (settings : RunSettings) (desired : DesiredState) (change : Change) :
    Dialogue (Except Fault RunOutcome) :=
  resolving (settings.binaries.forChange change) fun program =>
  let command := CommandLine.forChange program desired change
  executing (if settings.dryRun then command.echoed settings.binaries.echo else command) fun output =>
  if output.succeeded then .done (.ok (.changed desired.volumeName change))
  else fail (.commandFailed (.make desired.volumeName change) output)

/-- Plans from the facts and carries the plan out. -/
def carryOut (settings : RunSettings) (desired : DesiredState) (group : GroupFacts)
    (volume : Option VolumeFacts) : Dialogue (Except Fault RunOutcome) :=
  match plan desired group volume with
  | .error fault => fail fault
  | .ok (.keep reason) => .done (.ok (.kept desired.volumeName reason))
  | .ok (.change change) => makeChange settings desired change

/-- Reads the volume's report, the group being there. -/
def withVolume (settings : RunSettings) (desired : DesiredState) (lslv : String) (group : GroupFacts) :
    Dialogue (Except Fault RunOutcome) :=
  executing (.reportVolume lslv desired.volumeName) fun output =>
  match volumeReport output with
  | .error fault => fail fault
  | .ok volume => carryOut settings desired group volume

/-- Reads the group's report first. Without a group there is no volume either, which is well if there should
be none. -/
def withGroup (settings : RunSettings) (desired : DesiredState) (lsvg lslv : String) :
    Dialogue (Except Fault RunOutcome) :=
  executing (.reportGroup lsvg desired.groupName) fun output =>
  match groupReport output with
  | .error fault => fail fault
  | .ok (some group) => withVolume settings desired lslv group
  | .ok none =>
    match desired.presence with
    | .absent => .done (.ok (.groupAbsent desired.groupName))
    | .present => fail (.commandFailed (.reportGroup desired.groupName) output)

end Dialogue

open Dialogue

/-- Brings one logical volume a step towards the desired state. -/
def reconcile (settings : RunSettings) (desired : DesiredState) : Dialogue (Except Fault RunOutcome) :=
  match desired.validate with
  | .error cause => fail (.misconfigured cause)
  | .ok () =>
    resolving settings.binaries.lsvg fun lsvg =>
    resolving settings.binaries.lslv fun lslv =>
    withGroup settings desired lsvg lslv

end LogicalVolumes
