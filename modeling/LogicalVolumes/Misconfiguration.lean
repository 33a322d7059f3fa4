import LogicalVolumes.Text.Numeral

/-!
What can be wrong with the state that is asked for, before any report is read.
-/

namespace LogicalVolumes

inductive Misconfiguration
  | unknownPolicy (word : String)
  | unknownState (word : String)
  | groupNameMissing
  | volumeNameMissing
  | copiesOutOfRange (copies : UInt8)
  | documentNotFound (path : String)
  deriving DecidableEq

def Misconfiguration.message : Misconfiguration → String
  | .unknownPolicy word => "unknown placement policy: " ++ word
  | .unknownState word => "unknown state: " ++ word
  | .groupNameMissing => "volume group name is required"
  | .volumeNameMissing => "logical volume name is required"
  | .copiesOutOfRange copies =>
    "copies must be between 1 and 3, got " ++ Text.inDigits copies.toNat
  | .documentNotFound path => "desired state file not found: " ++ path

end LogicalVolumes
