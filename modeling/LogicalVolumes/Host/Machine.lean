import LogicalVolumes.Desired.File
import LogicalVolumes.Host.SearchPath
import LogicalVolumes.Run.Dialogue

/-!
A machine: its files, and where it looks for programs. It answers the requests of a run, and keeps the
documents that desired states are read from.
-/

namespace LogicalVolumes.Host

structure Machine where
  files : FileSystem
  path : Option String
  /-- The directory that a tilde stands for on the path. -/
  home : Option String := none
  /-- What the reader of documents says of a text that is none. -/
  complaint : List Char → String

namespace Machine

/-- What keeps an entry from being started, if anything does. -/
def start : Entry → Except HostFault Program
  | .file _ (some program) => .ok program
  | _ => .error .permissionDenied

/-- The first of several places where a program can be started. Being refused at one place counts for more
than finding nothing at another, and a name that is too long ends the search. -/
def firstStart (files : FileSystem) : HostFault → List String → Except HostFault Program
  | fault, [] => .error fault
  | fault, path :: paths =>
    match (files.entry path).bind start with
    | .ok program => .ok program
    | .error .permissionDenied => firstStart files .permissionDenied paths
    | .error .nameTooLong => .error .nameTooLong
    | .error _ => firstStart files fault paths

/-- The program of a name. A name with a slash is a path, any other is looked for. -/
def programOf (machine : Machine) (name : String) : Except HostFault Program :=
  if name.toList.contains '/' then (machine.files.entry name).bind start
  else if name = "" then .error .notFound
  else firstStart machine.files .notFound ((directories machine.path).map (inDirectory · name))

/-- How many bytes a word of a command may have. -/
def wordLimit : Nat :=
  131071

/-- The program that a command starts. No word of a command may hold a NUL. -/
def program (machine : Machine) (command : CommandLine) : Except HostFault Program :=
  let words := command.program :: command.args
  if words.any (·.toList.contains '\x00') then .error .nulInWord
  else (machine.programOf command.program).bind fun program =>
    if words.any (wordLimit < ·.utf8ByteSize) then .error .wordTooLong else .ok program

/-- A killed program has the exit code minus one; output that is no text is read leniently. -/
def output (finished : Finished) : CommandOutput where
  exitCode := match finished.ending with
    | .exited code => Int32.ofNat code.toNat
    | .killed => -1
  stdout := String.ofList (Text.readUtf8Leniently finished.stdout)
  stderr := String.ofList (Text.readUtf8Leniently finished.stderr)

def execute (machine : Machine) (command : CommandLine) : Except HostFault CommandOutput :=
  (machine.program command).map fun program => output (program.run command.args)

/-- Looks for a program along a search path. -/
def seek (machine : Machine) (here path : Option String) (name : String) : Except Fault String :=
  if name.toList.contains '\x00' then .error (.programNotFound name)
  else match machine.files.locate machine.home here path name with
    | none => .error (.programNotFound name)
    | some place => .ok place

/-- Looks for a program in the directory `extra` before all others. If that cannot be put on a search path,
the others are searched alone; if it can, the path of the working directory has to be known. -/
def resolve (machine : Machine) (extra : Option String) (name : String) : Except Fault String :=
  let here := machine.files.currentDirectory
  match extendedPath extra machine.path with
  | none => machine.seek here.toOption machine.path name
  | some path =>
    match here with
    | .error cause => .error (.host cause)
    | .ok here => machine.seek (some here) (some path) name

theorem ofRunner_of_seek {machine : Machine} {here path : Option String} {name : String} {fault : Fault}
    (h : machine.seek here path name = .error fault) : fault.OfRunner := by
  rw [seek] at h
  split at h
  · cases h
    exact .programNotFound name
  · split at h
    · cases h
      exact .programNotFound name
    · cases h

theorem ofRunner_of_resolve {machine : Machine} {extra : Option String} {name : String} {fault : Fault}
    (h : machine.resolve extra name = .error fault) : fault.OfRunner := by
  rw [resolve] at h
  split at h
  · exact ofRunner_of_seek h
  · split at h
    · cases h
      exact .host _
    · exact ofRunner_of_seek h

def runner (machine : Machine) (extra : Option String) : Runner where
  resolve _ name := machine.resolve extra name
  execute _ command := (machine.execute command).mapError .host
  resolve_fault := ofRunner_of_resolve
  execute_fault := .of_mapError

/-- The words by which a call is noted, if the program's calls are. -/
def noted? (machine : Machine) (command : CommandLine) : Option (List String) :=
  match machine.program command with
  | .ok program => program.noted.map (· :: command.args)
  | .error _ => none

/-- The bytes of the regular file at a path. -/
def contents? (machine : Machine) (path : String) : Option (List UInt8) :=
  match machine.files.entry path with
  | .ok (.file bytes _) => some bytes
  | _ => none

def loadDesiredState (machine : Machine) (path : String) : Except Fault DesiredState :=
  DesiredState.ofFile machine.complaint path (machine.contents? path)

end Machine

end LogicalVolumes.Host
