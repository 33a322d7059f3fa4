import LogicalVolumes.Desired.Yaml
import LogicalVolumes.Fault
import LogicalVolumes.Text.Utf8

/-!
Desired states in files.
-/

namespace LogicalVolumes.DesiredState

/-- Reads a state from the bytes of the file at `path`, if there is one, and refuses a state that could not
be asked for. -/
def ofFile (complaint : List Char → String) (path : String) : Option (List UInt8) → Except Fault DesiredState
  | none => .error (.misconfigured (.documentNotFound path))
  | some bytes =>
    match Text.readUtf8 bytes with
    | none => .error (.host .notUtf8)
    | some text =>
      match ofYaml complaint text with
      | .error cause => .error (.document cause)
      | .ok desired =>
        match desired.validate with
        | .error cause => .error (.misconfigured cause)
        | .ok () => .ok desired

end LogicalVolumes.DesiredState
