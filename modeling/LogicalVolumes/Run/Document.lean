import LogicalVolumes.Decode.Action
import LogicalVolumes.Json.Print
import LogicalVolumes.Run.Outcome

/-!
The result of a run as a JSON document on one line, and the exit status that goes with it.
-/

namespace LogicalVolumes

open Json

def RunOutcome.toJson (outcome : RunOutcome) : Json :=
  .object ([("changed", .boolean outcome.isChange), ("msg", .text outcome.message)]
    ++ match outcome.action? with
      | none => []
      | some action => [("action", action.toJson)])

def Fault.toJson (fault : Fault) : Json :=
  .object ([("failed", .boolean true), ("msg", .text fault.message)]
    ++ match fault.diagnostics with
      | none => []
      | some output => [("rc", .integer output.exitCode.toInt), ("out", .text output.stdout),
          ("err", .text output.stderr)])

/-- What a finished program leaves: its exit status and its standard output. -/
structure Exit where
  status : Nat
  stdout : String

def Exit.ofResult : Except Fault RunOutcome → Exit
  | .ok outcome => ⟨0, outcome.toJson.compact ++ "\n"⟩
  | .error fault => ⟨1, fault.toJson.compact ++ "\n"⟩

end LogicalVolumes
