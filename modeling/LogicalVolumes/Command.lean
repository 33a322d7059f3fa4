import LogicalVolumes.Action
import LogicalVolumes.Text.Blank
import LogicalVolumes.Text.Numeral

/-!
Command lines of the volume manager, and the programs that carry out each action.
-/

namespace LogicalVolumes

structure CommandLine where
  program : String
  args : List String
  deriving DecidableEq

/-- The names of the programs that are run; `echo` shows a command instead of running it. -/
structure Binaries where
  lsvg : String := "lsvg"
  lslv : String := "lslv"
  mklv : String := "mklv"
  rmlv : String := "rmlv"
  extendlv : String := "extendlv"
  chlv : String := "chlv"
  echo : String := "echo"

/-- What a finished command left: its exit code and its two streams. -/
structure CommandOutput where
  exitCode : Int32
  stdout : String
  stderr : String
  deriving DecidableEq

def CommandOutput.succeeded (output : CommandOutput) : Bool :=
  output.exitCode == 0

namespace CommandLine

/-- The command as an argument list of `echo`, so that it is shown and not run. -/
def echoed (echo : String) (command : CommandLine) : CommandLine :=
  ⟨echo, command.program :: command.args⟩

/-- The words of the command with one space between them. -/
def display (command : CommandLine) : String :=
  " ".intercalate (command.program :: command.args)

/-- An amount of megabytes as the commands take it. -/
def amount (size : Megabytes) : String :=
  Text.inDigits size.toNat ++ "M"

def reportGroup (program group : String) : CommandLine :=
  ⟨program, [group]⟩

def reportVolume (program volume : String) : CommandLine :=
  ⟨program, [volume]⟩

/-- Options are cut at blanks and passed on in their order. -/
def createVolume (program group volume : String) (layout : VolumeLayout) : CommandLine :=
  ⟨program,
    ["-t", layout.volumeType, "-y", volume, "-c", Text.inDigits layout.copies.toNat,
      "-e", layout.policy.flag]
    ++ (Text.words layout.options.toList).map String.ofList
    ++ [group, amount layout.size]
    ++ layout.physicalVolumes⟩

def removeVolume (program volume : String) : CommandLine :=
  ⟨program, ["-f", volume]⟩

def extendVolume (program volume : String) (delta : Megabytes) : CommandLine :=
  ⟨program, [volume, amount delta]⟩

def changePolicy (program volume : String) (policy : PlacementPolicy) : CommandLine :=
  ⟨program, ["-e", policy.flag, volume]⟩

/-- The command that makes a change with `program`. -/
def forChange (program : String) (desired : DesiredState) : Change → CommandLine
  | .create layout => createVolume program desired.groupName desired.volumeName layout
  | .delete => removeVolume program desired.volumeName
  | .resize delta _ => extendVolume program desired.volumeName delta
  | .setPolicy policy => changePolicy program desired.volumeName policy

/-- The command that carries out an action; keeping things as they are needs none. -/
def forAction (program : String) (desired : DesiredState) : Action → Option CommandLine
  | .keep _ => none
  | .change change => some (forChange program desired change)

end CommandLine

namespace Binaries

/-- The program that makes a change. -/
def forChange (binaries : Binaries) : Change → String
  | .create _ => binaries.mklv
  | .delete => binaries.rmlv
  | .resize _ _ => binaries.extendlv
  | .setPolicy _ => binaries.chlv

/-- The program that an action needs. -/
def forAction (binaries : Binaries) : Action → Option String
  | .keep _ => none
  | .change change => some (binaries.forChange change)

end Binaries

end LogicalVolumes
