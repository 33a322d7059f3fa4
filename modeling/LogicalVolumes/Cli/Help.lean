import LogicalVolumes.Cli.Options

/-!
The text that explains the command line: a row for each option, with its variable, what that holds, and the
value that stands in for an option that is not given.
-/

namespace LogicalVolumes.Cli

namespace Name

/-- The option's name in capitals, which stands for its value. -/
def valueName (name : Name) : String :=
  String.ofList (name.long.toList.map fun c => if c = '-' then '_' else c.toUpper)

def purpose : Name → String
  | group => "Volume group the logical volume is part of"
  | volume => "Name of the logical volume"
  | volumeType => "Type of the logical volume"
  | size => "Size with one of the M/G/T units; required to create the volume"
  | copies => "Number of copies of the logical volume"
  | policy => "Inter-physical volume allocation policy (maximum, minimum)"
  | options => "Free-form options passed to mklv"
  | physicalVolumes => "Physical volumes to allocate from, e.g. hdisk1,hdisk2"
  | state => "Whether the logical volume should exist (present, absent)"
  | check => "Only display the command that would change the system"
  | document => "YAML document describing the desired state; other state flags are ignored"
  | binDir => "Extra directory searched for the LVM binaries"
  | logLevel => "Log level (trace, debug, info, warn, error)"
  | logJson => "Output logs as JSON"

def default? (name : Name) : Option String :=
  let plain := DesiredState.ofNames "" ""
  match name with
  | volumeType => some plain.volumeType
  | copies => some (Text.inDigits plain.copies.toNat)
  | policy => some plain.policy.word
  | options => some plain.extraOptions
  | state => some plain.presence.word
  | logLevel => some "warn"
  | _ => none

end Name

structure HelpRow where
  label : String
  text : String

def Name.helpRow (environment : String → Option String) (name : Name) : HelpRow where
  label := "      --" ++ name.long ++ if name.isFlag then "" else " <" ++ name.valueName ++ ">"
  text :=
    let held := name.variableName ++ "=" ++ (environment name.variableName).getD ""
    let stand := match name.default? with
      | none => ""
      | some value => " [default: " ++ (if value = "" then "\"\"" else value) ++ "]"
    name.purpose ++ " [env: " ++ held ++ "]" ++ stand

def helpRows (environment : String → Option String) : List HelpRow :=
  Name.all.map (·.helpRow environment) ++
    [⟨"  -h, --help", "Print help"⟩, ⟨"  -V, --version", "Print version"⟩]

def spaces (n : Nat) : String :=
  String.ofList (List.replicate n ' ')

/-- A row whose text starts in `column`, in every line of it. -/
def HelpRow.line (column : Nat) (row : HelpRow) : String :=
  let indented := row.text.toList.flatMap fun c => if c = '\n' then '\n' :: (spaces column).toList else [c]
  row.label ++ spaces (column - row.label.length) ++ String.ofList indented ++ "\n"

/-- All texts start two places behind the longest label. -/
def help (environment : String → Option String) : String :=
  let rows := helpRows environment
  let column := (rows.map (·.label.length)).foldl max 0 + 2
  "Idempotent reconciliation of AIX LVM logical volumes against a declared state\n\n" ++
    "Usage: lvol-reconciler [OPTIONS]\n\nOptions:\n" ++ String.join (rows.map (·.line column))

end LogicalVolumes.Cli
