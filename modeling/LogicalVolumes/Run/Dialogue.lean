import LogicalVolumes.Fault

/-!
A run as a dialogue with the system: it asks for programs and for the outcome of commands, one thing at a
time, and goes on from each answer. A runner answers; what was asked and answered is the transcript.
-/

namespace LogicalVolumes

inductive Dialogue (α : Type)
  | done (result : α)
  | resolve (name : String) (next : Except Fault String → Dialogue α)
  | execute (command : CommandLine) (next : Except Fault CommandOutput → Dialogue α)

inductive Exchange
  | resolved (name : String) (found : Except Fault String)
  | executed (command : CommandLine) (reply : Except Fault CommandOutput)

/-- Answers a request in view of all exchanges before it. -/
structure Runner where
  /-- The path of a program, as the text with which commands start it: bytes of it that are no text have been
  read leniently. -/
  resolve : List Exchange → String → Except Fault String
  execute : List Exchange → CommandLine → Except Fault CommandOutput
  resolve_fault : ∀ {past name fault}, resolve past name = .error fault → fault.OfRunner
  execute_fault : ∀ {past command fault}, execute past command = .error fault → fault.OfRunner

def Exchange.command? : Exchange → Option CommandLine
  | .resolved _ _ => none
  | .executed command _ => some command

/-- The commands of a transcript. -/
def commands (exchanges : List Exchange) : List CommandLine :=
  exchanges.filterMap Exchange.command?

structure Transcript (α : Type) where
  exchanges : List Exchange
  result : α

namespace Dialogue

/-- Holds a dialogue with `runner`, after the exchanges `past`. -/
def playAfter {α : Type} (runner : Runner) (past : List Exchange) : Dialogue α → Transcript α
  | .done result => ⟨[], result⟩
  | .resolve name next =>
    let found := runner.resolve past name
    let exchange := Exchange.resolved name found
    let rest := (next found).playAfter runner (past ++ [exchange])
    ⟨exchange :: rest.exchanges, rest.result⟩
  | .execute command next =>
    let reply := runner.execute past command
    let exchange := Exchange.executed command reply
    let rest := (next reply).playAfter runner (past ++ [exchange])
    ⟨exchange :: rest.exchanges, rest.result⟩

def play {α : Type} (runner : Runner) (dialogue : Dialogue α) : Transcript α :=
  dialogue.playAfter runner []

/-- Asks for a program and goes on only with its path. -/
def resolving {α : Type} (name : String) (next : String → Dialogue (Except Fault α)) :
    Dialogue (Except Fault α) :=
  .resolve name fun
    | .error fault => .done (.error fault)
    | .ok path => next path

/-- Runs a command and goes on only with its output. -/
def executing {α : Type} (command : CommandLine) (next : CommandOutput → Dialogue (Except Fault α)) :
    Dialogue (Except Fault α) :=
  .execute command fun
    | .error fault => .done (.error fault)
    | .ok output => next output

end Dialogue

end LogicalVolumes
