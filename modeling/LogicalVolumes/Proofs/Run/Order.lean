import LogicalVolumes.Proofs.Run.Course
import LogicalVolumes.Run.Script

/-! The order in which a run acts: two reports, and a change only on their ground. -/

namespace LogicalVolumes

open Dialogue

def Exchange.execution? : Exchange → Option (CommandLine × Except Fault CommandOutput)
  | .resolved _ _ => none
  | .executed command reply => some (command, reply)

def executions (exchanges : List Exchange) : List (CommandLine × Except Fault CommandOutput) :=
  exchanges.filterMap Exchange.execution?

section

variable (name : String) (path : Except Fault String) (command : CommandLine)
  (reply : Except Fault CommandOutput) (exchanges : List Exchange)

@[simp] lemma commands_nil : commands [] = [] := rfl

@[simp] lemma commands_resolved : commands (.resolved name path :: exchanges) = commands exchanges := rfl

@[simp] lemma commands_executed :
    commands (.executed command reply :: exchanges) = command :: commands exchanges := rfl

@[simp] lemma executions_nil : executions [] = [] := rfl

@[simp] lemma executions_resolved :
    executions (.resolved name path :: exchanges) = executions exchanges := rfl

@[simp] lemma executions_executed :
    executions (.executed command reply :: exchanges) = (command, reply) :: executions exchanges := rfl

lemma commands_append (s t : List Exchange) : commands (s ++ t) = commands s ++ commands t :=
  List.filterMap_append ..

lemma executions_append (s t : List Exchange) : executions (s ++ t) = executions s ++ executions t :=
  List.filterMap_append ..

lemma executions_length : (executions exchanges).length = (commands exchanges).length := by
  induction exchanges with
  | nil => rfl
  | cons e exchanges ih => cases e <;> simp [ih]

end

section

variable (group volume : String) (reason : KeepReason) (change : Change)

@[simp] lemma isChange_groupAbsent : (RunOutcome.groupAbsent group).isChange = false := rfl

@[simp] lemma isChange_kept : (RunOutcome.kept volume reason).isChange = false := rfl

@[simp] lemma isChange_changed : (RunOutcome.changed volume change).isChange = true := rfl

@[simp] lemma action_groupAbsent : (RunOutcome.groupAbsent group).action? = none := rfl

@[simp] lemma action_kept : (RunOutcome.kept volume reason).action? = some (.keep reason) := rfl

@[simp] lemma action_changed : (RunOutcome.changed volume change).action? = some (.change change) := rfl

end

lemma succeeded_iff {output : CommandOutput} : output.succeeded = true ↔ output.exitCode = 0 := by
  simp [CommandOutput.succeeded]

lemma groupReport_eq_some {output : CommandOutput} {group : GroupFacts} :
    groupReport output = .ok (some group) ↔
      output.exitCode = 0 ∧ GroupFacts.ofReport output.stdout = .ok (some group) := by
  by_cases h : output.exitCode = 0 <;> simp [groupReport, succeeded_iff, h]

lemma groupReport_eq_none {output : CommandOutput} :
    groupReport output = .ok none ↔
      output.exitCode ≠ 0 ∨ GroupFacts.ofReport output.stdout = .ok none := by
  by_cases h : output.exitCode = 0 <;> simp [groupReport, succeeded_iff, h]

def found (settings : RunSettings) (lsvg lslv : String) : List Exchange :=
  [.resolved settings.binaries.lsvg (.ok lsvg), .resolved settings.binaries.lslv (.ok lslv)]

section

variable {settings : RunSettings} {desired : DesiredState} {lslv : String} {group : GroupFacts}
  {exchanges : List Exchange} {result : Except Fault RunOutcome} {command : CommandLine}
  {output : CommandOutput}

lemma VolumeCourse.of_reply (h : VolumeCourse settings desired lslv group exchanges result)
    (hfirst : (executions exchanges)[0]? = some (command, .ok output)) :
    command = .reportVolume lslv desired.volumeName ∧
      ∃ rest, exchanges = .executed command (.ok output) :: rest ∧
      match volumeReport output with
      | .error fault => rest = [] ∧ result = .error fault
      | .ok volume => PlanCourse settings desired group volume rest result := by
  cases h with
  | unanswered _ => simp at hfirst
  | unreadable hv =>
    obtain ⟨rfl, rfl⟩ : _ = command ∧ _ = output := by simpa using hfirst
    exact ⟨rfl, [], rfl, by simp [hv]⟩
  | read hv hplan =>
    obtain ⟨rfl, rfl⟩ : _ = command ∧ _ = output := by simpa using hfirst
    exact ⟨rfl, _, rfl, by simpa only [hv] using hplan⟩

lemma Course.of_reply (h : Course settings desired exchanges result)
    (hfirst : (executions exchanges)[0]? = some (command, .ok output)) :
    ∃ lsvg lslv rest, command = .reportGroup lsvg desired.groupName ∧
      exchanges = LogicalVolumes.found settings lsvg lslv ++ .executed command (.ok output) :: rest ∧
      match groupReport output with
      | .error fault => rest = [] ∧ result = .error fault
      | .ok (some group) => VolumeCourse settings desired lslv group rest result
      | .ok none =>
        match desired.presence with
        | .absent => rest = [] ∧ result = .ok (.groupAbsent desired.groupName)
        | .present => rest = [] ∧
          result = .error (.commandFailed (.reportGroup desired.groupName) output) := by
  cases h with
  | misconfigured _ => simp at hfirst
  | lsvgMissing _ _ => simp at hfirst
  | lslvMissing _ _ _ => simp at hfirst
  | found lsvg lslv _ hgroup =>
    refine ⟨lsvg, lslv, ?_⟩
    cases hgroup with
    | unanswered _ => simp at hfirst
    | unreadable hg =>
      obtain ⟨rfl, rfl⟩ : _ = command ∧ _ = output := by simpa using hfirst
      exact ⟨[], rfl, rfl, by simp [hg]⟩
    | absent hg hp =>
      obtain ⟨rfl, rfl⟩ : _ = command ∧ _ = output := by simpa using hfirst
      exact ⟨[], rfl, rfl, by simp [hg, hp]⟩
    | missing hg hp =>
      obtain ⟨rfl, rfl⟩ : _ = command ∧ _ = output := by simpa using hfirst
      exact ⟨[], rfl, rfl, by simp [hg, hp]⟩
    | read hg hvolume =>
      obtain ⟨rfl, rfl⟩ : _ = command ∧ _ = output := by simpa using hfirst
      exact ⟨_, rfl, rfl, by simpa only [hg] using hvolume⟩

lemma Course.of_second_reply (h : Course settings desired exchanges result)
    (hsecond : (executions exchanges)[1]? = some (command, .ok output)) :
    ∃ first groupOutput group rest, (executions exchanges)[0]? = some (first, .ok groupOutput) ∧
      groupReport groupOutput = .ok (some group) ∧
      match volumeReport output with
      | .error fault => rest = [] ∧ result = .error fault
      | .ok volume => PlanCourse settings desired group volume rest result := by
  cases h with
  | misconfigured _ => simp at hsecond
  | lsvgMissing _ _ => simp at hsecond
  | lslvMissing _ _ _ => simp at hsecond
  | found lsvg lslv _ hgroup =>
    cases hgroup with
    | unanswered _ => simp at hsecond
    | unreadable _ => simp at hsecond
    | absent _ _ => simp at hsecond
    | missing _ _ => simp at hsecond
    | @read groupOutput group _ _ hg hvolume =>
      obtain ⟨_, rest, _, hrest⟩ := hvolume.of_reply hsecond
      exact ⟨_, groupOutput, group, rest, rfl, hg, hrest⟩

end

/-- Both reports were read without a fault, and `third` carries out the action planned from them. -/
def Grounded (settings : RunSettings) (desired : DesiredState) (exchanges : List Exchange)
    (lsvg lslv : String) (third : CommandLine) : Prop :=
  ∃ groupOutput group volumeOutput volume action name program command,
    found settings lsvg lslv ++ [.executed (.reportGroup lsvg desired.groupName) (.ok groupOutput),
      .executed (.reportVolume lslv desired.volumeName) (.ok volumeOutput),
      .resolved name (.ok program)] <+: exchanges ∧
    groupOutput.exitCode = 0 ∧ GroupFacts.ofReport groupOutput.stdout = .ok (some group) ∧
    volumeReport volumeOutput = .ok volume ∧ plan desired group volume = .ok action ∧
    (∀ reason, action ≠ .keep reason) ∧ settings.binaries.forAction action = some name ∧
    CommandLine.forAction program desired action = some command ∧
    third = if settings.dryRun then command.echoed settings.binaries.echo else command

structure Orderly (settings : RunSettings) (desired : DesiredState)
    (run : Transcript (Except Fault RunOutcome)) (lsvg lslv : String) (third : CommandLine) : Prop where
  commands_prefix : commands run.exchanges <+:
    [.reportGroup lsvg desired.groupName, .reportVolume lslv desired.volumeName, third]
  before_first : commands run.exchanges ≠ [] →
    desired.validate = .ok () ∧ found settings lsvg lslv <+: run.exchanges
  before_second : 1 < (commands run.exchanges).length → ∃ output group,
    found settings lsvg lslv ++ [.executed (.reportGroup lsvg desired.groupName) (.ok output)] <+:
      run.exchanges ∧
    output.exitCode = 0 ∧ GroupFacts.ofReport output.stdout = .ok (some group)
  before_third : 2 < (commands run.exchanges).length →
    Grounded settings desired run.exchanges lsvg lslv third
  changed_iff : (∃ outcome, run.result = .ok outcome ∧ outcome.isChange = true) ↔
    ∃ output, (executions run.exchanges)[2]? = some (third, .ok output) ∧ output.exitCode = 0
  unchanged : ∀ outcome, run.result = .ok outcome → outcome.isChange = false →
    (commands run.exchanges).length ≤ 2
  unplanned_iff : (∃ outcome, run.result = .ok outcome ∧ outcome.isChange = false ∧ outcome.action? = none) ↔
    desired.presence = .absent ∧ ∃ output,
      (executions run.exchanges)[0]? = some (.reportGroup lsvg desired.groupName, .ok output) ∧
      (output.exitCode ≠ 0 ∨ GroupFacts.ofReport output.stdout = .ok none)
  unplanned : ∀ outcome, run.result = .ok outcome → outcome.action? = none →
    commands run.exchanges = [.reportGroup lsvg desired.groupName]

section

variable {settings : RunSettings} {desired : DesiredState} {lsvg lslv : String} {exchanges : List Exchange}
  {result : Except Fault RunOutcome}

lemma orderly_of_nothing (fault : Fault) (h : executions exchanges = []) (hc : commands exchanges = []) :
    Orderly settings desired ⟨exchanges, .error fault⟩ lsvg lslv ⟨"", []⟩ := by
  constructor <;> simp [h, hc]

variable {groupOutput volumeOutput : CommandOutput} {group : GroupFacts} {volume : Option VolumeFacts}
  {change : Change}

lemma grounded (hg : groupReport groupOutput = .ok (some group)) (hv : volumeReport volumeOutput = .ok volume)
    (hplan : plan desired group volume = .ok (.change change)) (program : String) :
    Grounded settings desired (found settings lsvg lslv ++
      .executed (.reportGroup lsvg desired.groupName) (.ok groupOutput) ::
      .executed (.reportVolume lslv desired.volumeName) (.ok volumeOutput) ::
      .resolved (settings.binaries.forChange change) (.ok program) :: exchanges) lsvg lslv
      (settings.issued desired program change) := by
  obtain ⟨hcode, hfacts⟩ := groupReport_eq_some.mp hg
  exact ⟨groupOutput, group, volumeOutput, volume, _, _, program, _, ⟨exchanges, by simp⟩, hcode, hfacts, hv,
    hplan, by simp, rfl, rfl, rfl⟩

lemma ChangeCourse.orderly (hvalid : desired.validate = .ok ())
    (hg : groupReport groupOutput = .ok (some group)) (hv : volumeReport volumeOutput = .ok volume)
    (hplan : plan desired group volume = .ok (.change change))
    (h : ChangeCourse settings desired change exchanges result) :
    ∃ third, Orderly settings desired ⟨found settings lsvg lslv ++
      .executed (.reportGroup lsvg desired.groupName) (.ok groupOutput) ::
      .executed (.reportVolume lslv desired.volumeName) (.ok volumeOutput) :: exchanges, result⟩
      lsvg lslv third := by
  obtain ⟨hg0, hfacts⟩ := groupReport_eq_some.mp hg
  cases h with
  | programMissing _ =>
    refine ⟨⟨"", []⟩, ?_⟩
    constructor <;> simp [hvalid, found, hg0, hfacts]
  | unanswered program _ =>
    refine ⟨settings.issued desired program change, ?_⟩
    constructor
    case before_third => exact fun _ => grounded hg hv hplan program
    all_goals simp [hvalid, found, hg0, hfacts]
  | @failed program output hs =>
    have hcode : output.exitCode ≠ 0 := by simpa [CommandOutput.succeeded] using hs
    refine ⟨settings.issued desired program change, ?_⟩
    constructor
    case before_third => exact fun _ => grounded hg hv hplan program
    all_goals simp [hvalid, found, hg0, hfacts, hcode]
  | @made program output hs =>
    have hcode : output.exitCode = 0 := succeeded_iff.mp hs
    refine ⟨settings.issued desired program change, ?_⟩
    constructor
    case before_third => exact fun _ => grounded hg hv hplan program
    all_goals simp [hvalid, found, hg0, hfacts, hcode]

lemma PlanCourse.orderly (hvalid : desired.validate = .ok ())
    (hg : groupReport groupOutput = .ok (some group)) (hv : volumeReport volumeOutput = .ok volume)
    (h : PlanCourse settings desired group volume exchanges result) :
    ∃ third, Orderly settings desired ⟨found settings lsvg lslv ++
      .executed (.reportGroup lsvg desired.groupName) (.ok groupOutput) ::
      .executed (.reportVolume lslv desired.volumeName) (.ok volumeOutput) :: exchanges, result⟩
      lsvg lslv third := by
  obtain ⟨hg0, hfacts⟩ := groupReport_eq_some.mp hg
  cases h with
  | refused _ =>
    refine ⟨⟨"", []⟩, ?_⟩
    constructor <;> simp [hvalid, found, hg0, hfacts]
  | kept _ =>
    refine ⟨⟨"", []⟩, ?_⟩
    constructor <;> simp [hvalid, found, hg0, hfacts]
  | change hplan hchange => exact hchange.orderly hvalid hg hv hplan

lemma VolumeCourse.orderly (hvalid : desired.validate = .ok ())
    (hg : groupReport groupOutput = .ok (some group))
    (h : VolumeCourse settings desired lslv group exchanges result) :
    ∃ third, Orderly settings desired ⟨found settings lsvg lslv ++
      .executed (.reportGroup lsvg desired.groupName) (.ok groupOutput) :: exchanges, result⟩
      lsvg lslv third := by
  obtain ⟨hg0, hfacts⟩ := groupReport_eq_some.mp hg
  cases h with
  | unanswered _ =>
    refine ⟨⟨"", []⟩, ?_⟩
    constructor <;> simp [hvalid, found, hg0, hfacts]
  | unreadable _ =>
    refine ⟨⟨"", []⟩, ?_⟩
    constructor <;> simp [hvalid, found, hg0, hfacts]
  | read hv hplan => exact hplan.orderly hvalid hg hv

lemma GroupCourse.orderly (hvalid : desired.validate = .ok ())
    (h : GroupCourse settings desired lsvg lslv exchanges result) :
    ∃ third, Orderly settings desired ⟨found settings lsvg lslv ++ exchanges, result⟩ lsvg lslv third := by
  cases h with
  | unanswered _ =>
    refine ⟨⟨"", []⟩, ?_⟩
    constructor <;> simp [hvalid, found]
  | @unreadable output _ hg =>
    have hnone : groupReport output ≠ .ok none := by simp [hg]
    refine ⟨⟨"", []⟩, ?_⟩
    constructor <;> simp [hvalid, found, ← groupReport_eq_none, hnone]
  | absent hg hp =>
    refine ⟨⟨"", []⟩, ?_⟩
    constructor <;> simp [hvalid, found, ← groupReport_eq_none, hg, hp]
  | missing hg hp =>
    refine ⟨⟨"", []⟩, ?_⟩
    constructor <;> simp [hvalid, found, hp]
  | read hg hvolume => exact hvolume.orderly hvalid hg

lemma Course.orderly (h : Course settings desired exchanges result) :
    ∃ lsvg lslv third, Orderly settings desired ⟨exchanges, result⟩ lsvg lslv third := by
  cases h with
  | misconfigured _ => exact ⟨"", "", _, orderly_of_nothing _ rfl rfl⟩
  | lsvgMissing _ _ => exact ⟨"", "", _, orderly_of_nothing _ rfl rfl⟩
  | lslvMissing lsvg _ _ => exact ⟨lsvg, "", _, orderly_of_nothing _ rfl rfl⟩
  | found lsvg lslv hvalid hgroup => exact ⟨lsvg, lslv, hgroup.orderly hvalid⟩

/-- Each command of a run is one of the two reports or carries out what was planned from them. -/
lemma Course.command_origin (h : Course settings desired exchanges result) {command : CommandLine}
    (hcommand : command ∈ commands exchanges) :
    (∃ lsvg, .resolved settings.binaries.lsvg (.ok lsvg) ∈ exchanges ∧
      command = .reportGroup lsvg desired.groupName) ∨
    (∃ lslv, .resolved settings.binaries.lslv (.ok lslv) ∈ exchanges ∧
      command = .reportVolume lslv desired.volumeName) ∨
    ∃ lsvg lslv, desired.validate = .ok () ∧ Grounded settings desired exchanges lsvg lslv command := by
  obtain ⟨lsvg, lslv, third, horderly⟩ := h.orderly
  obtain ⟨hvalid, hfound⟩ := horderly.before_first (List.ne_nil_of_mem hcommand)
  obtain ⟨i, hi⟩ := List.mem_iff_getElem?.mp hcommand
  obtain ⟨hlength, heq⟩ := List.getElem?_eq_some_iff.mp hi
  have hthree := List.prefix_iff_getElem?.mp horderly.commands_prefix i hlength
  rw [heq] at hthree
  match i with
  | 0 => exact .inl ⟨lsvg, hfound.subset (by simp [LogicalVolumes.found]), by simpa using hthree.symm⟩
  | 1 => exact .inr (.inl ⟨lslv, hfound.subset (by simp [LogicalVolumes.found]), by simpa using hthree.symm⟩)
  | 2 =>
    obtain rfl : third = command := by simpa using hthree
    exact .inr (.inr ⟨lsvg, lslv, hvalid, horderly.before_third hlength⟩)
  | i + 3 => simp at hthree

end

/-- Whatever the runner answers, the commands of a run are the two reports and one change, up to where it
stops. -/
theorem reconcile_orderly (settings : RunSettings) (desired : DesiredState) (runner : Runner) :
    ∃ lsvg lslv third, Orderly settings desired ((reconcile settings desired).play runner) lsvg lslv third :=
  (reconcile_course settings desired runner).orderly

def sampleGroupReport : String :=
  "VOLUME GROUP: datavg\nPP SIZE: 32 megabyte(s)\n" ++
    "TOTAL PPs: 100 (3200 megabytes)\nFREE PPs: 50 (1600 megabytes)\n"

/-- A group without the volume, in which none can be made. -/
def lockedGroup : Script where
  replies := [("lsvg", .ok ⟨0, sampleGroupReport, ""⟩), ("lslv", .ok ⟨1, "", "no testlv\n"⟩),
    ("mklv", .ok ⟨1, "", "datavg is locked\n"⟩)]

def wantedVolume : DesiredState := { DesiredState.ofNames "datavg" "testlv" with size := some "500M" }

example : commands ((reconcile {} wantedVolume).play lockedGroup.runner).exchanges =
    [⟨"/usr/sbin/lsvg", ["datavg"]⟩, ⟨"/usr/sbin/lslv", ["testlv"]⟩,
      ⟨"/usr/sbin/mklv", ["-t", "jfs2", "-y", "testlv", "-c", "1", "-e", "x", "datavg", "512M"]⟩] := by
  decide +kernel

end LogicalVolumes
