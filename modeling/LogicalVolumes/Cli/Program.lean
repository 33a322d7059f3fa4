import LogicalVolumes.Cli.Help
import LogicalVolumes.Host.Machine
import LogicalVolumes.Run.Document
import LogicalVolumes.Run.Reconcile

/-!
The program: read the command line, find the desired state, hold the dialogue, and leave a document.
-/

namespace LogicalVolumes.Cli

def version : String :=
  "lvol-reconciler 0.2.0\n"

/-- The state that a source gives, which can be asked for. -/
def Source.desired (load : String → Except Fault DesiredState) : Source → Except Fault DesiredState
  | .document path => load path
  | .options desired =>
    match desired.validate with
    | .error cause => .error (.misconfigured cause)
    | .ok () => .ok desired

/-- The dialogue that options ask for. -/
def Options.dialogue (load : String → Except Fault DesiredState) (options : Options) :
    Dialogue (Except Fault RunOutcome) :=
  match options.source.desired load with
  | .error fault => .done (.error fault)
  | .ok desired => reconcile { dryRun := options.check } desired

/-- What the program leaves at once, or the options with which it goes on. -/
def opening (environment : String → Option String) (words : List String) : Exit ⊕ Options :=
  match readOptions environment words with
  | .proceed options => .inr options
  | .version => .inl ⟨0, version⟩
  | .help => .inl ⟨0, help environment⟩
  | .misused => .inl ⟨2, ""⟩

/-- A whole run on a machine. -/
def run (machine : Host.Machine) (environment : String → Option String) (words : List String) :
    Transcript Exit :=
  match opening environment words with
  | .inl exit => ⟨[], exit⟩
  | .inr options =>
    let transcript := (options.dialogue machine.loadDesiredState).play (machine.runner options.binDir)
    ⟨transcript.exchanges, Exit.ofResult transcript.result⟩

end LogicalVolumes.Cli
