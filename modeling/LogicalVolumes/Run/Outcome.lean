import LogicalVolumes.Fault

/-!
How a run ends when nothing fails.
-/

namespace LogicalVolumes

inductive RunOutcome
  | groupAbsent (group : String)
  | kept (volume : String) (reason : KeepReason)
  | changed (volume : String) (change : Change)
  deriving DecidableEq

def KeepReason.message (volume : String) : KeepReason → String
  | .alreadyAbsent => "Logical Volume " ++ volume ++ " does not exist."
  | .alreadyExists => "Logical volume " ++ volume ++ " already exist."
  | .sizeMatches size => "Logical volume " ++ volume ++ " size is already " ++ megabytes size ++ "MB."

def Change.message (volume : String) : Change → String
  | .create _ => "Logical volume " ++ volume ++ " created."
  | .delete => "Logical volume " ++ volume ++ " deleted."
  | .resize _ target => "Logical volume " ++ volume ++ " size extended to " ++ megabytes target ++ "MB."
  | .setPolicy policy => "Logical volume " ++ volume ++ " policy changed: " ++ policy.word ++ "."

namespace RunOutcome

def isChange : RunOutcome → Bool
  | .changed _ _ => true
  | _ => false

def message : RunOutcome → String
  | .groupAbsent group => Purpose.groupMissing group
  | .kept volume reason => reason.message volume
  | .changed volume change => change.message volume

/-- The action that was planned; without its group nothing is planned. -/
def action? : RunOutcome → Option Action
  | .groupAbsent _ => none
  | .kept _ reason => some (.keep reason)
  | .changed _ change => some (.change change)

end RunOutcome

end LogicalVolumes
