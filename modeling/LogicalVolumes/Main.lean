import LogicalVolumes.Cli.Program

/-!
The program on a real system, as far as it can see it: its arguments, its environment and the file with the
desired state. Other programs are out of its reach, so a run ends at the first one that it asks for.
-/

namespace LogicalVolumes.Cli

def noPrograms : Runner where
  resolve _ name := .error (.programNotFound name)
  execute _ _ := .error (.host .notFound)
  resolve_fault h := by
    cases h
    exact .programNotFound _
  execute_fault h := by
    cases h
    exact .host _

/-- What the environment says of the options. -/
def environmentOf : List Name → IO (List (String × String))
  | [] => pure []
  | name :: names => do
    let entries ← environmentOf names
    match ← IO.getEnv name.variableName with
    | none => pure entries
    | some value => pure ((name.variableName, value) :: entries)

/-- The bytes of the file that a source names. -/
def contentsOf : Source → IO (Option (List UInt8))
  | .options _ => pure none
  | .document path => do
    match ← (IO.FS.readBinFile path).toBaseIO with
    | .ok bytes => pure (some bytes.toList)
    | .error _ => pure none

/-- This program has no words of its own for what is wrong with a text that is no document. -/
def complaint (_ : List Char) : String :=
  "not a document"

def leave (exit : Exit) : IO UInt32 := do
  IO.print exit.stdout
  pure exit.status.toUInt32

end LogicalVolumes.Cli

open LogicalVolumes.Cli in
def main (words : List String) : IO UInt32 := do
  let environment ← environmentOf Name.all
  match opening (environment.lookup ·) words with
  | .inl exit => leave exit
  | .inr options =>
    let contents ← contentsOf options.source
    let load path := LogicalVolumes.DesiredState.ofFile complaint path contents
    leave (.ofResult ((options.dialogue load).play noPrograms).result)
