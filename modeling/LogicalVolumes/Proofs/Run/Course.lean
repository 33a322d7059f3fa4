import LogicalVolumes.Run.Reconcile
import Mathlib.Tactic.Lemma

/-!
The courses that a run can take, stage by stage, whatever is answered: what is exchanged and how it ends.
-/

namespace LogicalVolumes

open Dialogue

def RunSettings.issued (settings : RunSettings) (desired : DesiredState) (program : String)
    (change : Change) : CommandLine :=
  let command := CommandLine.forChange program desired change
  if settings.dryRun then command.echoed settings.binaries.echo else command

variable (settings : RunSettings) (desired : DesiredState)

inductive ChangeCourse (change : Change) : List Exchange → Except Fault RunOutcome → Prop
  | programMissing {fault : Fault} : fault.OfRunner →
      ChangeCourse change [.resolved (settings.binaries.forChange change) (.error fault)] (.error fault)
  | unanswered (program : String) {fault : Fault} : fault.OfRunner →
      ChangeCourse change [.resolved (settings.binaries.forChange change) (.ok program),
        .executed (settings.issued desired program change) (.error fault)] (.error fault)
  | failed (program : String) {output : CommandOutput} : output.succeeded = false →
      ChangeCourse change [.resolved (settings.binaries.forChange change) (.ok program),
        .executed (settings.issued desired program change) (.ok output)]
        (.error (.commandFailed (.make desired.volumeName change) output))
  | made (program : String) {output : CommandOutput} : output.succeeded = true →
      ChangeCourse change [.resolved (settings.binaries.forChange change) (.ok program),
        .executed (settings.issued desired program change) (.ok output)]
        (.ok (.changed desired.volumeName change))

inductive PlanCourse (group : GroupFacts) (volume : Option VolumeFacts) :
    List Exchange → Except Fault RunOutcome → Prop
  | refused {fault : Fault} : plan desired group volume = .error fault →
      PlanCourse group volume [] (.error fault)
  | kept {reason : KeepReason} : plan desired group volume = .ok (.keep reason) →
      PlanCourse group volume [] (.ok (.kept desired.volumeName reason))
  | change {change : Change} {exchanges result} : plan desired group volume = .ok (.change change) →
      ChangeCourse settings desired change exchanges result → PlanCourse group volume exchanges result

inductive VolumeCourse (lslv : String) (group : GroupFacts) : List Exchange → Except Fault RunOutcome → Prop
  | unanswered {fault : Fault} : fault.OfRunner →
      VolumeCourse lslv group [.executed (.reportVolume lslv desired.volumeName) (.error fault)] (.error fault)
  | unreadable {output : CommandOutput} {fault : Fault} : volumeReport output = .error fault →
      VolumeCourse lslv group [.executed (.reportVolume lslv desired.volumeName) (.ok output)] (.error fault)
  | read {output : CommandOutput} {volume : Option VolumeFacts} {exchanges result} :
      volumeReport output = .ok volume → PlanCourse settings desired group volume exchanges result →
      VolumeCourse lslv group
        (.executed (.reportVolume lslv desired.volumeName) (.ok output) :: exchanges) result

inductive GroupCourse (lsvg lslv : String) : List Exchange → Except Fault RunOutcome → Prop
  | unanswered {fault : Fault} : fault.OfRunner →
      GroupCourse lsvg lslv [.executed (.reportGroup lsvg desired.groupName) (.error fault)] (.error fault)
  | unreadable {output : CommandOutput} {fault : Fault} : groupReport output = .error fault →
      GroupCourse lsvg lslv [.executed (.reportGroup lsvg desired.groupName) (.ok output)] (.error fault)
  | absent {output : CommandOutput} : groupReport output = .ok none → desired.presence = .absent →
      GroupCourse lsvg lslv [.executed (.reportGroup lsvg desired.groupName) (.ok output)]
        (.ok (.groupAbsent desired.groupName))
  | missing {output : CommandOutput} : groupReport output = .ok none → desired.presence = .present →
      GroupCourse lsvg lslv [.executed (.reportGroup lsvg desired.groupName) (.ok output)]
        (.error (.commandFailed (.reportGroup desired.groupName) output))
  | read {output : CommandOutput} {group : GroupFacts} {exchanges result} :
      groupReport output = .ok (some group) → VolumeCourse settings desired lslv group exchanges result →
      GroupCourse lsvg lslv (.executed (.reportGroup lsvg desired.groupName) (.ok output) :: exchanges) result

inductive Course : List Exchange → Except Fault RunOutcome → Prop
  | misconfigured {cause : Misconfiguration} : desired.validate = .error cause →
      Course [] (.error (.misconfigured cause))
  | lsvgMissing {fault : Fault} : desired.validate = .ok () → fault.OfRunner →
      Course [.resolved settings.binaries.lsvg (.error fault)] (.error fault)
  | lslvMissing (lsvg : String) {fault : Fault} : desired.validate = .ok () → fault.OfRunner →
      Course [.resolved settings.binaries.lsvg (.ok lsvg), .resolved settings.binaries.lslv (.error fault)]
        (.error fault)
  | found (lsvg lslv : String) {exchanges result} : desired.validate = .ok () →
      GroupCourse settings desired lsvg lslv exchanges result →
      Course (.resolved settings.binaries.lsvg (.ok lsvg) :: .resolved settings.binaries.lslv (.ok lslv) ::
        exchanges) result

section

variable {α : Type} {runner : Runner} {past : List Exchange} {name path : String} {command : CommandLine}
  {fault : Fault}

lemma resolving_error {next : String → Dialogue (Except Fault α)}
    (h : runner.resolve past name = .error fault) :
    (resolving name next).playAfter runner past = ⟨[.resolved name (.error fault)], .error fault⟩ := by
  simp only [resolving, playAfter, h]

lemma resolving_ok {next : String → Dialogue (Except Fault α)} (h : runner.resolve past name = .ok path) :
    (resolving name next).playAfter runner past =
      let rest := (next path).playAfter runner (past ++ [.resolved name (.ok path)])
      ⟨.resolved name (.ok path) :: rest.exchanges, rest.result⟩ := by
  simp only [resolving, playAfter, h]

lemma executing_error {next : CommandOutput → Dialogue (Except Fault α)}
    (h : runner.execute past command = .error fault) :
    (executing command next).playAfter runner past =
      ⟨[.executed command (.error fault)], .error fault⟩ := by
  simp only [executing, playAfter, h]

lemma executing_ok {next : CommandOutput → Dialogue (Except Fault α)} {output : CommandOutput}
    (h : runner.execute past command = .ok output) :
    (executing command next).playAfter runner past =
      let rest := (next output).playAfter runner (past ++ [.executed command (.ok output)])
      ⟨.executed command (.ok output) :: rest.exchanges, rest.result⟩ := by
  simp only [executing, playAfter, h]

end

lemma makeChange_eq (change : Change) :
    makeChange settings desired change =
      resolving (settings.binaries.forChange change) fun program =>
        executing (settings.issued desired program change) fun output =>
          if output.succeeded then .done (.ok (.changed desired.volumeName change))
          else fail (.commandFailed (.make desired.volumeName change) output) := rfl

variable (runner : Runner) (past : List Exchange)

lemma makeChange_course (change : Change) :
    ChangeCourse settings desired change
      ((makeChange settings desired change).playAfter runner past).exchanges
      ((makeChange settings desired change).playAfter runner past).result := by
  rw [makeChange_eq]
  cases hp : runner.resolve past (settings.binaries.forChange change) with
  | error fault =>
    rw [resolving_error hp]
    exact .programMissing (runner.resolve_fault hp)
  | ok program =>
    rw [resolving_ok hp]
    cases hr : runner.execute (past ++ [.resolved (settings.binaries.forChange change) (.ok program)])
        (settings.issued desired program change) with
    | error fault =>
      rw [executing_error hr]
      exact .unanswered program (runner.execute_fault hr)
    | ok output =>
      rw [executing_ok hr]
      cases hs : output.succeeded with
      | true => exact .made program hs
      | false => exact .failed program hs

lemma carryOut_course (group : GroupFacts) (volume : Option VolumeFacts) :
    PlanCourse settings desired group volume
      ((carryOut settings desired group volume).playAfter runner past).exchanges
      ((carryOut settings desired group volume).playAfter runner past).result := by
  unfold carryOut
  cases hplan : plan desired group volume with
  | error fault => exact .refused hplan
  | ok action =>
    cases action with
    | keep reason => exact .kept hplan
    | change change => exact .change hplan (makeChange_course settings desired runner past change)

lemma withVolume_course (lslv : String) (group : GroupFacts) :
    VolumeCourse settings desired lslv group
      ((withVolume settings desired lslv group).playAfter runner past).exchanges
      ((withVolume settings desired lslv group).playAfter runner past).result := by
  unfold withVolume
  cases hr : runner.execute past (.reportVolume lslv desired.volumeName) with
  | error fault =>
    rw [executing_error hr]
    exact .unanswered (runner.execute_fault hr)
  | ok output =>
    rw [executing_ok hr]
    cases hv : volumeReport output with
    | error fault => exact .unreadable hv
    | ok volume => exact .read hv (carryOut_course settings desired runner _ group volume)

lemma withGroup_course (lsvg lslv : String) :
    GroupCourse settings desired lsvg lslv
      ((withGroup settings desired lsvg lslv).playAfter runner past).exchanges
      ((withGroup settings desired lsvg lslv).playAfter runner past).result := by
  unfold withGroup
  cases hr : runner.execute past (.reportGroup lsvg desired.groupName) with
  | error fault =>
    rw [executing_error hr]
    exact .unanswered (runner.execute_fault hr)
  | ok output =>
    rw [executing_ok hr]
    cases hg : groupReport output with
    | error fault => exact .unreadable hg
    | ok found =>
      cases found with
      | some group => exact .read hg (withVolume_course settings desired runner _ lslv group)
      | none =>
        cases hp : desired.presence with
        | absent => exact .absent hg hp
        | present => exact .missing hg hp

lemma reconcile_course :
    Course settings desired ((reconcile settings desired).play runner).exchanges
      ((reconcile settings desired).play runner).result := by
  unfold reconcile play
  cases hv : desired.validate with
  | error cause => exact .misconfigured hv
  | ok _ =>
    cases hg : runner.resolve [] settings.binaries.lsvg with
    | error fault =>
      simp only [resolving_error hg]
      exact .lsvgMissing hv (runner.resolve_fault hg)
    | ok lsvg =>
      simp only [resolving_ok hg]
      cases hl : runner.resolve ([] ++ [.resolved settings.binaries.lsvg (.ok lsvg)])
          settings.binaries.lslv with
      | error fault =>
        rw [resolving_error hl]
        exact .lslvMissing lsvg hv (runner.resolve_fault hl)
      | ok lslv =>
        rw [resolving_ok hl]
        exact .found lsvg lslv hv (withGroup_course settings desired runner _ lsvg lslv)

end LogicalVolumes
