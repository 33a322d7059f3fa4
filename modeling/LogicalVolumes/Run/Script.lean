import LogicalVolumes.Run.Dialogue

/-!
A runner with prepared replies. Programs are found in one directory, and a reply belongs to a program's last
path component.
-/

namespace LogicalVolumes

structure Script where
  /-- Replies by program; of two for one program the first counts. -/
  replies : List (String × Except HostFault CommandOutput) := []
  /-- Programs that cannot be found. -/
  missing : List String := []

namespace Script

/-- The part of a path after its last slash. -/
def baseName (path : String) : String :=
  String.ofList (path.toList.reverse.takeWhile (· ≠ '/')).reverse

/-- Adds replies, which come before those already there. -/
def reply (script : Script) (replies : List (String × Except HostFault CommandOutput)) : Script :=
  { script with replies := replies ++ script.replies }

/-- A program without a reply ends well and prints nothing. -/
def runner (script : Script) : Runner where
  resolve _ name :=
    if script.missing.contains name then .error (.programNotFound name) else .ok ("/usr/sbin/" ++ name)
  execute _ command :=
    ((script.replies.lookup (baseName command.program)).getD (.ok ⟨0, "", ""⟩)).mapError .host
  resolve_fault h := by
    split at h
    · cases h
      exact .programNotFound _
    · cases h
  execute_fault := .of_mapError

end Script

end LogicalVolumes
