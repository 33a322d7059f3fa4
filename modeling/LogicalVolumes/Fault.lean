import LogicalVolumes.Command
import LogicalVolumes.Decode.Mismatch
import LogicalVolumes.Misconfiguration

/-!
Why a run, or the reading of its input, can fail. Each fault is a cause; its wording is `Fault.message`.
-/

namespace LogicalVolumes

inductive ReportKind
  | group
  | volume
  deriving DecidableEq

def ReportKind.label : ReportKind → String
  | .group => "volume group"
  | .volume => "logical volume"

/-- The labels of a report whose figures or words a run depends on. -/
inductive ReportField
  | unitSize
  | totalPartitions
  | freePartitions
  | groupName
  | logicalPartitions
  | policy
  deriving DecidableEq

def ReportField.label : ReportField → String
  | .unitSize => "PP SIZE"
  | .totalPartitions => "TOTAL PPs"
  | .freePartitions => "FREE PPs"
  | .groupName => "VOLUME GROUP"
  | .logicalPartitions => "LPs"
  | .policy => "INTER-POLICY"

/-- What a command that ended badly was run for. -/
inductive Purpose
  | reportGroup (group : String)
  | make (volume : String) (change : Change)
  deriving DecidableEq

/-- Why the system could not read a file or start a program. -/
inductive HostFault
  | notFound
  | permissionDenied
  | notDirectory
  | nameTooLong
  | wordTooLong
  | nulInWord
  | notUtf8
  | reported (text : String)
  deriving DecidableEq

inductive Fault
  | unknownUnit (size : String)
  | invalidSize (size : String)
  | sizeMissing (volume : String)
  | insufficientSpace (group : String) (requested free : Megabytes)
  | otherGroup (volume group : String)
  | shrinkRefused (volume : String) (current requested : Megabytes)
  | commandFailed (purpose : Purpose) (output : CommandOutput)
  | programNotFound (name : String)
  | incompleteReport (report : ReportKind) (name : String) (field : ReportField)
  | figureOutOfRange (report : ReportKind) (name : String) (field : ReportField)
  | misconfigured (cause : Misconfiguration)
  | document (cause : DocumentFault)
  | host (cause : HostFault)
  deriving DecidableEq

def megabytes (size : Megabytes) : String :=
  Text.inDigits size.toNat

namespace Purpose

def groupMissing (group : String) : String :=
  "Volume group " ++ group ++ " does not exist."

/-- What is said when the command does not succeed. -/
def failure : Purpose → String
  | .reportGroup group => groupMissing group
  | .make volume change =>
    match change with
    | .create _ => "Creating logical volume " ++ volume ++ " failed."
    | .delete => "Failed to remove logical volume " ++ volume ++ "."
    | .resize _ target => "Unable to resize " ++ volume ++ " to " ++ megabytes target ++ "MB."
    | .setPolicy _ => "Failed to change logical volume " ++ volume ++ " policy."

end Purpose

def HostFault.message : HostFault → String
  | .notFound => "No such file or directory (os error 2)"
  | .permissionDenied => "Permission denied (os error 13)"
  | .notDirectory => "Not a directory (os error 20)"
  | .nameTooLong => "File name too long (os error 36)"
  | .wordTooLong => "Argument list too long (os error 7)"
  | .nulInWord => "nul byte found in provided data"
  | .notUtf8 => "stream did not contain valid UTF-8"
  | .reported text => text

namespace Fault

def message : Fault → String
  | .unknownUnit _ => "No valid size unit specified."
  | .invalidSize size => "Invalid size: " ++ size
  | .sizeMissing _ => "No size given."
  | .insufficientSpace group _ free =>
    "Not enough free space in volume group " ++ group ++ ": " ++ megabytes free ++ " MB free."
  | .otherGroup volume group => "Logical volume " ++ volume ++ " already exist in volume group " ++ group
  | .shrinkRefused volume current _ =>
    "No shrinking of Logical Volume " ++ volume ++ " permitted. Current size: " ++ megabytes current ++ " MB"
  | .commandFailed purpose _ => purpose.failure
  | .programNotFound name => "Failed to find required executable \"" ++ name ++ "\""
  | .incompleteReport report name field =>
    "Incomplete " ++ report.label ++ " report for " ++ name ++ ": missing " ++ field.label
  | .figureOutOfRange report name field =>
    "Invalid " ++ report.label ++ " report for " ++ name ++ ": " ++ field.label ++ " out of range"
  | .misconfigured cause => "Configuration error: " ++ cause.message
  | .document cause => "YAML parse error: " ++ cause.message
  | .host cause => "IO error: " ++ cause.message

/-- The output of the command behind a fault, if there was one. -/
def diagnostics : Fault → Option CommandOutput
  | .commandFailed _ output => some output
  | _ => none

/-- The faults of a runner: it does not find a program, or the host refuses. -/
inductive OfRunner : Fault → Prop
  | programNotFound (name : String) : OfRunner (.programNotFound name)
  | host (cause : HostFault) : OfRunner (.host cause)

theorem OfRunner.diagnostics {fault : Fault} (h : fault.OfRunner) : fault.diagnostics = none := by
  cases h <;> rfl

theorem OfRunner.of_mapError {α : Type} {answer : Except HostFault α} {fault : Fault}
    (h : answer.mapError Fault.host = .error fault) : fault.OfRunner := by
  cases answer with
  | error cause =>
    cases h
    exact .host cause
  | ok _ => cases h

end Fault

end LogicalVolumes
