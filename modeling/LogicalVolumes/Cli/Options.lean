import LogicalVolumes.Desired.Basic
import LogicalVolumes.Text.Numeral

/-!
The command line: options in any order, each at most once but for the physical volumes. An option that is
not given may come from a variable of the environment.
-/

namespace LogicalVolumes.Cli

inductive Name
  | group
  | volume
  | volumeType
  | size
  | copies
  | policy
  | options
  | physicalVolumes
  | state
  | check
  | document
  | binDir
  | logLevel
  | logJson
  deriving DecidableEq

namespace Name

def all : List Name :=
  [group, volume, volumeType, size, copies, policy, options, physicalVolumes, state, check, document, binDir,
    logLevel, logJson]

/-- The name behind the two dashes. -/
def long : Name → String
  | group => "vg"
  | volume => "lv"
  | volumeType => "lv-type"
  | size => "size"
  | copies => "copies"
  | policy => "policy"
  | options => "opts"
  | physicalVolumes => "pvs"
  | state => "state"
  | check => "check"
  | document => "desired-state"
  | binDir => "bin-dir"
  | logLevel => "log-level"
  | logJson => "log-json"

def variableName : Name → String
  | group => "LVOL_VG"
  | volume => "LVOL_LV"
  | volumeType => "LVOL_TYPE"
  | size => "LVOL_SIZE"
  | copies => "LVOL_COPIES"
  | policy => "LVOL_POLICY"
  | options => "LVOL_OPTS"
  | physicalVolumes => "LVOL_PVS"
  | state => "LVOL_STATE"
  | check => "LVOL_CHECK"
  | document => "LVOL_DESIRED_STATE"
  | binDir => "LVOL_BIN_DIR"
  | logLevel => "LOG_LEVEL"
  | logJson => "LOG_JSON"

def ofLong? (long : String) : Option Name :=
  all.find? (·.long == long)

def isFlag : Name → Bool
  | check | logJson => true
  | _ => false

def mayRepeat : Name → Bool
  | physicalVolumes => true
  | _ => false

/-- Whether the next word is the option's value even if it looks like an option. -/
def takesAnyWord : Name → Bool
  | options => true
  | _ => false

end Name

def copies? (value : String) : Option UInt8 :=
  (Text.readSigned 10 value.toList).bind fun n =>
    if 1 ≤ n ∧ n ≤ 3 then some (UInt8.ofNat n.toNat) else none

def switch? (value : String) : Option Bool :=
  if value = "true" then some true else if value = "false" then some false else none

/-- Whether an option may have a value. -/
def Name.accepts (value : String) : Name → Bool
  | copies => (copies? value).isSome
  | policy => (PlacementPolicy.ofText value).isOk
  | state => (Presence.ofText value).isOk
  | check | logJson => (switch? value).isSome
  | document | binDir => !value.isEmpty
  | _ => true

/-- The options given so far, in their order. -/
abbrev Given := List (Name × String)

namespace Given

def values (given : Given) (name : Name) : List String :=
  (given.filter (·.1 = name)).map (·.2)

def value? (given : Given) (name : Name) : Option String :=
  (given.values name).head?

/-- Adds an option, unless its value is refused or it must not be given again. -/
def add? (given : Given) (name : Name) (value : String) : Option Given :=
  if name.accepts value && (name.mayRepeat || (given.value? name).isNone) then some (given ++ [(name, value)])
  else none

end Given

/-- What a word of the command line is. -/
inductive Word
  | long (name : String) (attached : Option String)
  | short (letter : Char)
  | dashes
  | other
  deriving DecidableEq

def Word.ofText (text : String) : Word :=
  match text.toList with
  | ['-', '-'] => .dashes
  | '-' :: '-' :: s =>
    let attached := match s.dropWhile (· ≠ '=') with
      | [] => none
      | _ :: value => some (String.ofList value)
    .long (String.ofList (s.takeWhile (· ≠ '='))) attached
  | '-' :: c :: _ => .short c
  | _ => .other

/-- What the command line asks for. -/
inductive Invocation (α : Type)
  | proceed (value : α)
  | version
  | help
  | misused
  deriving DecidableEq

/-- Goes on with the options to which one has been added. -/
def orMisused {α : Type} (given : Option Given) (next : Given → Invocation α) : Invocation α :=
  match given with
  | none => .misused
  | some given => next given

/-- Reads the words in order. The first that asks for something else than a run, or is wrong, decides. -/
def readWords (given : Given) : List String → Invocation Given
  | [] => .proceed given
  | word :: words =>
    match Word.ofText word with
    | .other => .misused
    | .dashes => if words.isEmpty then .proceed given else .misused
    | .short letter => if letter = 'V' then .version else if letter = 'h' then .help else .misused
    | .long long attached =>
      match Name.ofLong? long, attached with
      | none, none => if long = "version" then .version else if long = "help" then .help else .misused
      | none, some _ => .misused
      | some name, some value =>
        if name.isFlag then .misused else orMisused (given.add? name value) (readWords · words)
      | some name, none =>
        if name.isFlag then orMisused (given.add? name "true") (readWords · words)
        else match words with
          | [] => .misused
          | value :: words =>
            if name.takesAnyWord || Word.ofText value == .other then
              orMisused (given.add? name value) (readWords · words)
            else .misused

/-- Adds what the environment says of the options that have not been given. -/
def readEnvironment (environment : String → Option String) : Given → List Name → Option Given
  | given, [] => some given
  | given, name :: names =>
    if (given.value? name).isSome then readEnvironment environment given names
    else match environment name.variableName with
      | none => readEnvironment environment given names
      | some value => (given.add? name value).bind fun given => readEnvironment environment given names

/-- Where the desired state comes from. -/
inductive Source
  | document (path : String)
  | options (desired : DesiredState)

structure Options where
  source : Source
  check : Bool
  binDir : Option String

/-- The state that options ask for; the names of group and volume must be among them. -/
def Given.desired? (given : Given) : Option DesiredState := do
  let groupName ← given.value? .group
  let volumeName ← given.value? .volume
  let plain := DesiredState.ofNames groupName volumeName
  let policy := (given.value? .policy).bind fun value => (PlacementPolicy.ofText value).toOption
  let presence := (given.value? .state).bind fun value => (Presence.ofText value).toOption
  pure {
    groupName := groupName
    volumeName := volumeName
    volumeType := (given.value? .volumeType).getD plain.volumeType
    size := given.value? .size
    copies := ((given.value? .copies).bind copies?).getD plain.copies
    policy := policy.getD plain.policy
    extraOptions := (given.value? .options).getD plain.extraOptions
    physicalVolumes := DesiredState.splitPhysicalVolumes (given.values .physicalVolumes)
    presence := presence.getD plain.presence }

/-- The options of a run. A document makes all options about the desired state idle. -/
def Given.options? (given : Given) : Option Options := do
  let source ← match given.value? .document with
    | some path => some (Source.document path)
    | none => given.desired?.map .options
  pure {
    source := source
    check := ((given.value? .check).bind switch?).getD false
    binDir := given.value? .binDir }

def readOptions (environment : String → Option String) (words : List String) : Invocation Options :=
  match readWords [] words with
  | .misused => .misused
  | .version => .version
  | .help => .help
  | .proceed given =>
    match (readEnvironment environment given Name.all).bind Given.options? with
    | none => .misused
    | some options => .proceed options

end LogicalVolumes.Cli
