import LogicalVolumes.Proofs.Capacity.Alignment
import LogicalVolumes.Proofs.Report.Group
import LogicalVolumes.Proofs.Run.Reading

/-! The output that a failed run hands on is that of the command that failed. -/

namespace LogicalVolumes

open Dialogue

def Mentions (text name : String) : Prop := ∃ before after, text = before ++ name ++ after

/-- The group's report came back, and there is no group in it although the volume should be there. -/
def GroupMissing (desired : DesiredState) (exchanges : List Exchange) (output : CommandOutput) : Prop :=
  desired.presence = .present ∧
  (∃ lsvg, (executions exchanges)[0]? = some (.reportGroup lsvg desired.groupName, .ok output)) ∧
  (output.exitCode ≠ 0 ∨ output.exitCode = 0 ∧ NamesNoGroup output.stdout)

/-- The third command came back with a failure. -/
def ChangeFailed (exchanges : List Exchange) (output : CommandOutput) : Prop :=
  (∃ command, (executions exchanges)[2]? = some (command, .ok output)) ∧ output.exitCode ≠ 0

/-- A program that was not found, or a command that could not be started. -/
def Exchange.Unanswered : Exchange → Prop
  | .resolved _ found => ∃ fault, found = .error fault
  | .executed _ reply => ∃ fault, reply = .error fault

def EndsSilently (result : Except Fault RunOutcome) : Prop :=
  ∃ fault, result = .error fault ∧ fault.diagnostics = none

structure Diagnosed (desired : DesiredState) (run : Transcript (Except Fault RunOutcome)) : Prop where
  failed_iff : (∃ purpose output, run.result = .error (.commandFailed purpose output)) ↔
    (∃ output, GroupMissing desired run.exchanges output) ∨ ∃ output, ChangeFailed run.exchanges output
  last_output : ∀ purpose output, run.result = .error (.commandFailed purpose output) →
    ∃ command, (executions run.exchanges).getLast? = some (command, .ok output)
  group_named : ∀ output, GroupMissing desired run.exchanges output → ∃ fault, run.result = .error fault ∧
    fault.diagnostics = some output ∧ Mentions fault.message desired.groupName
  volume_named : ∀ output, ChangeFailed run.exchanges output → ∃ fault, run.result = .error fault ∧
    fault.diagnostics = some output ∧ Mentions fault.message desired.volumeName
  volume_report_blameless : ∀ second, (executions run.exchanges)[1]? = some second →
    ∀ purpose output, run.result = .error (.commandFailed purpose output) → ChangeFailed run.exchanges output
  diagnostics_iff : ∀ (fault : Fault) (output : CommandOutput),
    fault.diagnostics = some output ↔ ∃ purpose, fault = .commandFailed purpose output
  unanswered : ∀ e ∈ run.exchanges, e.Unanswered → EndsSilently run.result
  unread : ∀ output fault,
    ((∃ command, (executions run.exchanges)[0]? = some (command, .ok output)) ∧
        groupReport output = .error fault ∨
      (∃ command, (executions run.exchanges)[1]? = some (command, .ok output)) ∧
        volumeReport output = .error fault) →
    run.result = .error fault ∧ fault.diagnostics = none
  unplanned : ∀ first second groupOutput volumeOutput group volume fault,
    (executions run.exchanges)[0]? = some (first, .ok groupOutput) →
    groupReport groupOutput = .ok (some group) →
    (executions run.exchanges)[1]? = some (second, .ok volumeOutput) →
    volumeReport volumeOutput = .ok volume → plan desired group volume = .error fault →
    run.result = .error fault ∧ fault.diagnostics = none

section

variable {settings : RunSettings} {desired : DesiredState} {fault : Fault}

lemma diagnostics_eq_some {output : CommandOutput} :
    fault.diagnostics = some output ↔ ∃ purpose, fault = .commandFailed purpose output := by
  cases fault <;> simp [Fault.diagnostics]

lemma groupReport_error {output : CommandOutput} (h : groupReport output = .error fault) :
    fault.diagnostics = none := by
  cases hs : output.succeeded with
  | false => simp [groupReport, hs] at h
  | true =>
    rw [groupReport, if_pos hs] at h
    obtain ⟨name, field, rfl⟩ := groupFault_incomplete h
    rfl

lemma volumeReport_error {output : CommandOutput} (h : volumeReport output = .error fault) :
    fault.diagnostics = none := by
  cases hs : output.succeeded with
  | false => simp [volumeReport, hs] at h
  | true =>
    have hspec := VolumeRecord.finish_spec (VolumeRecord.scan output.stdout)
    rw [volumeReport, if_pos hs, VolumeFacts.ofReport] at h
    rw [h] at hspec
    cases hspec <;> rfl

lemma plan_error {group : GroupFacts} {observed : Option VolumeFacts}
    (h : plan desired group observed = .error fault) : fault.diagnostics = none := by
  have hsize : ∀ {text unit}, targetSize text unit = .error fault → fault.diagnostics = none := by
    intro text unit hsize
    obtain ⟨size, rfl | rfl⟩ := targetSize_error hsize <;> rfl
  cases plan_spec h with
  | create _ hcreate =>
    cases hcreate with
    | badSize _ hs => exact hsize hs
    | _ => rfl
  | update _ hupdate =>
    cases hupdate with
    | badSize _ _ _ hs => exact hsize hs
    | _ => rfl

lemma groupMissing_mentions (group : String) : Mentions (Purpose.reportGroup group).failure group :=
  ⟨"Volume group ", " does not exist.", rfl⟩

lemma make_mentions (volume : String) (change : Change) :
    Mentions (Purpose.make volume change).failure volume := by
  cases change with
  | create _ => exact ⟨"Creating logical volume ", " failed.", rfl⟩
  | delete => exact ⟨"Failed to remove logical volume ", ".", rfl⟩
  | resize delta target =>
    have htext : (Purpose.make volume (.resize delta target)).failure =
        "Unable to resize " ++ volume ++ " to " ++ megabytes target ++ "MB." := rfl
    exact ⟨"Unable to resize ", " to " ++ megabytes target ++ "MB.", by
      rw [htext]
      simp only [String.append_assoc]⟩
  | setPolicy _ => exact ⟨"Failed to change logical volume ", " policy.", rfl⟩

variable {exchanges : List Exchange} {result : Except Fault RunOutcome} {lsvg lslv : String}
  {groupOutput volumeOutput : CommandOutput} {group : GroupFacts} {volume : Option VolumeFacts}
  {change : Change}

lemma Fault.OfRunner.endsSilently (h : fault.OfRunner) : EndsSilently (.error fault) :=
  ⟨fault, rfl, h.diagnostics⟩

lemma ChangeCourse.endsSilently (h : ChangeCourse settings desired change exchanges result)
    (hnone : ∃ e ∈ exchanges, e.Unanswered) : EndsSilently result := by
  cases h with
  | programMissing hfault => exact hfault.endsSilently
  | unanswered _ hfault => exact hfault.endsSilently
  | failed _ _ => simp [Exchange.Unanswered] at hnone
  | made _ _ => simp [Exchange.Unanswered] at hnone

lemma PlanCourse.endsSilently (h : PlanCourse settings desired group volume exchanges result)
    (hnone : ∃ e ∈ exchanges, e.Unanswered) : EndsSilently result := by
  cases h with
  | refused _ => simp at hnone
  | kept _ => simp at hnone
  | change _ hchange => exact hchange.endsSilently hnone

lemma VolumeCourse.endsSilently (h : VolumeCourse settings desired lslv group exchanges result)
    (hnone : ∃ e ∈ exchanges, e.Unanswered) : EndsSilently result := by
  cases h with
  | unanswered hfault => exact hfault.endsSilently
  | unreadable _ => simp [Exchange.Unanswered] at hnone
  | read _ hplan => exact hplan.endsSilently (by simpa [Exchange.Unanswered] using hnone)

lemma GroupCourse.endsSilently (h : GroupCourse settings desired lsvg lslv exchanges result)
    (hnone : ∃ e ∈ exchanges, e.Unanswered) : EndsSilently result := by
  cases h with
  | unanswered hfault => exact hfault.endsSilently
  | unreadable _ => simp [Exchange.Unanswered] at hnone
  | absent _ _ => simp [Exchange.Unanswered] at hnone
  | missing _ _ => simp [Exchange.Unanswered] at hnone
  | read _ hvolume => exact hvolume.endsSilently (by simpa [Exchange.Unanswered] using hnone)

lemma Course.endsSilently (h : Course settings desired exchanges result)
    (hnone : ∃ e ∈ exchanges, e.Unanswered) : EndsSilently result := by
  cases h with
  | misconfigured _ => simp at hnone
  | lsvgMissing _ hfault => exact hfault.endsSilently
  | lslvMissing _ _ hfault => exact hfault.endsSilently
  | found _ _ _ hgroup => exact hgroup.endsSilently (by simpa [Exchange.Unanswered] using hnone)

lemma groupReport_none_iff : groupReport groupOutput = .ok none ↔
    groupOutput.exitCode ≠ 0 ∨ groupOutput.exitCode = 0 ∧ NamesNoGroup groupOutput.stdout := by
  rw [groupReport_eq_none, ofReport_eq_none]
  by_cases hcode : groupOutput.exitCode = 0 <;> simp [hcode]

lemma not_groupMissing_of_report (hg : groupReport groupOutput ≠ .ok none) (output : CommandOutput) :
    ¬ GroupMissing desired (found settings lsvg lslv ++
      .executed (.reportGroup lsvg desired.groupName) (.ok groupOutput) :: exchanges) output := by
  rintro ⟨_, ⟨_, hfirst⟩, hnone⟩
  obtain ⟨_, rfl⟩ : _ ∧ groupOutput = output := by simpa [found] using hfirst
  exact hg (groupReport_none_iff.mpr hnone)

lemma not_groupMissing_of_read (hg : groupReport groupOutput = .ok (some group)) (output : CommandOutput) :
    ¬ GroupMissing desired (found settings lsvg lslv ++
      .executed (.reportGroup lsvg desired.groupName) (.ok groupOutput) :: exchanges) output :=
  not_groupMissing_of_report (by simp [hg]) output

end

/-- Who is to blame for the way a run ends: no command, the group's report, or the command for the change. -/
inductive Verdict (desired : DesiredState) (exchanges : List Exchange) : Except Fault RunOutcome → Prop
  | nobody {result : Except Fault RunOutcome} :
      (∀ fault, result = .error fault → fault.diagnostics = none) →
      (∀ output, ¬ GroupMissing desired exchanges output) → (∀ output, ¬ ChangeFailed exchanges output) →
      Verdict desired exchanges result
  | group {lsvg : String} {output : CommandOutput} :
      executions exchanges = [(.reportGroup lsvg desired.groupName, .ok output)] →
      GroupMissing desired exchanges output →
      Verdict desired exchanges (.error (.commandFailed (.reportGroup desired.groupName) output))
  | change {first second : CommandLine × Except Fault CommandOutput} {command : CommandLine}
      {output : CommandOutput} (change : Change) :
      executions exchanges = [first, second, (command, .ok output)] → output.exitCode ≠ 0 →
      (∀ other, ¬ GroupMissing desired exchanges other) →
      Verdict desired exchanges (.error (.commandFailed (.make desired.volumeName change) output))

section

variable {settings : RunSettings} {desired : DesiredState} {exchanges : List Exchange}
  {result : Except Fault RunOutcome} {lsvg lslv : String} {groupOutput volumeOutput : CommandOutput}
  {group : GroupFacts} {volume : Option VolumeFacts} {change : Change}

lemma Verdict.silent {fault : Fault} (hquiet : fault.diagnostics = none)
    (hgroup : ∀ output, ¬ GroupMissing desired exchanges output)
    (hchange : ∀ output, ¬ ChangeFailed exchanges output) : Verdict desired exchanges (.error fault) :=
  .nobody (by rintro _ ⟨rfl⟩; exact hquiet) hgroup hchange

lemma ChangeCourse.verdict (hg : groupReport groupOutput = .ok (some group))
    (h : ChangeCourse settings desired change exchanges result) :
    Verdict desired (found settings lsvg lslv ++
      .executed (.reportGroup lsvg desired.groupName) (.ok groupOutput) ::
      .executed (.reportVolume lslv desired.volumeName) (.ok volumeOutput) :: exchanges) result := by
  cases h with
  | programMissing hfault =>
    exact .silent hfault.diagnostics (not_groupMissing_of_read hg) (by simp [ChangeFailed, found])
  | unanswered program hfault =>
    exact .silent hfault.diagnostics (not_groupMissing_of_read hg) (by simp [ChangeFailed, found])
  | failed program hs =>
    exact .change change rfl (by simpa [CommandOutput.succeeded] using hs) (not_groupMissing_of_read hg)
  | made program hs =>
    have hcode := succeeded_iff.mp hs
    refine .nobody (by simp) (not_groupMissing_of_read hg) ?_
    rintro output ⟨⟨command, hthird⟩, hne⟩
    obtain ⟨_, rfl⟩ : _ ∧ _ = output := by simpa [found] using hthird
    exact hne hcode

lemma PlanCourse.verdict (hg : groupReport groupOutput = .ok (some group))
    (h : PlanCourse settings desired group volume exchanges result) :
    Verdict desired (found settings lsvg lslv ++
      .executed (.reportGroup lsvg desired.groupName) (.ok groupOutput) ::
      .executed (.reportVolume lslv desired.volumeName) (.ok volumeOutput) :: exchanges) result := by
  cases h with
  | refused hplan =>
    exact .silent (plan_error hplan) (not_groupMissing_of_read hg) (by simp [ChangeFailed, found])
  | kept _ => exact .nobody (by simp) (not_groupMissing_of_read hg) (by simp [ChangeFailed, found])
  | change _ hchange => exact hchange.verdict hg

lemma VolumeCourse.verdict (hg : groupReport groupOutput = .ok (some group))
    (h : VolumeCourse settings desired lslv group exchanges result) :
    Verdict desired (found settings lsvg lslv ++
      .executed (.reportGroup lsvg desired.groupName) (.ok groupOutput) :: exchanges) result := by
  cases h with
  | unanswered hfault =>
    exact .silent hfault.diagnostics (not_groupMissing_of_read hg) (by simp [ChangeFailed, found])
  | unreadable hv =>
    exact .silent (volumeReport_error hv) (not_groupMissing_of_read hg) (by simp [ChangeFailed, found])
  | read _ hplan => exact hplan.verdict hg

lemma GroupCourse.verdict (h : GroupCourse settings desired lsvg lslv exchanges result) :
    Verdict desired (found settings lsvg lslv ++ exchanges) result := by
  cases h with
  | unanswered hfault =>
    exact .silent hfault.diagnostics (by simp [GroupMissing, found]) (by simp [ChangeFailed, found])
  | unreadable hg =>
    exact .silent (groupReport_error hg) (not_groupMissing_of_report (by simp [hg]))
      (by simp [ChangeFailed, found])
  | absent hg hp => exact .nobody (by simp) (by simp [GroupMissing, hp]) (by simp [ChangeFailed, found])
  | missing hg hp => exact .group rfl ⟨hp, ⟨_, rfl⟩, groupReport_none_iff.mp hg⟩
  | read hg hvolume => exact hvolume.verdict hg

lemma Course.verdict (h : Course settings desired exchanges result) : Verdict desired exchanges result := by
  cases h with
  | misconfigured _ =>
    exact .silent rfl (by simp [GroupMissing]) (by simp [ChangeFailed])
  | lsvgMissing _ hfault =>
    exact .silent hfault.diagnostics (by simp [GroupMissing]) (by simp [ChangeFailed])
  | lslvMissing _ _ hfault =>
    exact .silent hfault.diagnostics (by simp [GroupMissing]) (by simp [ChangeFailed])
  | found _ _ _ hgroup => exact hgroup.verdict

lemma Verdict.failed_iff (h : Verdict desired exchanges result) :
    (∃ purpose output, result = .error (.commandFailed purpose output)) ↔
      (∃ output, GroupMissing desired exchanges output) ∨ ∃ output, ChangeFailed exchanges output := by
  cases h with
  | nobody hquiet hgroup hchange =>
    refine iff_of_false ?_ (by simp [hgroup, hchange])
    rintro ⟨purpose, output, rfl⟩
    exact absurd (hquiet _ rfl) (by simp [Fault.diagnostics])
  | group _ hmissing => exact iff_of_true ⟨_, _, rfl⟩ (.inl ⟨_, hmissing⟩)
  | change _ hthree hcode _ => exact iff_of_true ⟨_, _, rfl⟩ (.inr ⟨_, ⟨_, by rw [hthree]; rfl⟩, hcode⟩)

lemma Verdict.last_output (h : Verdict desired exchanges result) {purpose : Purpose} {output : CommandOutput}
    (hresult : result = .error (.commandFailed purpose output)) :
    ∃ command, (executions exchanges).getLast? = some (command, .ok output) := by
  cases h with
  | nobody hquiet _ _ => exact absurd (hquiet _ hresult) (by simp [Fault.diagnostics])
  | group hone _ =>
    cases hresult
    exact ⟨_, by rw [hone]; rfl⟩
  | change _ hthree _ _ =>
    cases hresult
    exact ⟨_, by rw [hthree]; rfl⟩

lemma Verdict.group_named (h : Verdict desired exchanges result) {output : CommandOutput}
    (hmissing : GroupMissing desired exchanges output) : ∃ fault, result = .error fault ∧
      fault.diagnostics = some output ∧ Mentions fault.message desired.groupName := by
  cases h with
  | nobody _ hgroup _ => exact absurd hmissing (hgroup output)
  | group hone _ =>
    obtain ⟨_, ⟨_, hfirst⟩, _⟩ := hmissing
    obtain ⟨_, rfl⟩ : _ ∧ _ = output := by simpa [hone] using hfirst
    exact ⟨_, rfl, rfl, groupMissing_mentions desired.groupName⟩
  | change _ _ _ hgroup => exact absurd hmissing (hgroup output)

lemma Verdict.volume_named (h : Verdict desired exchanges result) {output : CommandOutput}
    (hfailed : ChangeFailed exchanges output) : ∃ fault, result = .error fault ∧
      fault.diagnostics = some output ∧ Mentions fault.message desired.volumeName := by
  cases h with
  | nobody _ _ hchange => exact absurd hfailed (hchange output)
  | group hone _ => simp [ChangeFailed, hone] at hfailed
  | change change hthree _ _ =>
    obtain ⟨⟨_, hthird⟩, _⟩ := hfailed
    obtain ⟨_, rfl⟩ : _ ∧ _ = output := by simpa [hthree] using hthird
    exact ⟨_, rfl, rfl, make_mentions desired.volumeName change⟩

lemma Verdict.second_blameless (h : Verdict desired exchanges result)
    {second : CommandLine × Except Fault CommandOutput}
    (hsecond : (executions exchanges)[1]? = some second)
    {purpose : Purpose} {output : CommandOutput} (hresult : result = .error (.commandFailed purpose output)) :
    ChangeFailed exchanges output := by
  cases h with
  | nobody hquiet _ _ => exact absurd (hquiet _ hresult) (by simp [Fault.diagnostics])
  | group hone _ => simp [hone] at hsecond
  | change _ hthree hcode _ =>
    cases hresult
    exact ⟨⟨_, by rw [hthree]; rfl⟩, hcode⟩

lemma Course.group_unread (h : Course settings desired exchanges result) {command : CommandLine}
    {fault : Fault} (hfirst : (executions exchanges)[0]? = some (command, .ok groupOutput))
    (hg : groupReport groupOutput = .error fault) : result = .error fault := by
  obtain ⟨_, _, _, _, _, hrest⟩ := h.of_reply hfirst
  rw [hg] at hrest
  exact hrest.2

lemma Course.volume_unread (h : Course settings desired exchanges result) {command : CommandLine}
    {fault : Fault} (hsecond : (executions exchanges)[1]? = some (command, .ok volumeOutput))
    (hv : volumeReport volumeOutput = .error fault) : result = .error fault := by
  obtain ⟨_, _, _, _, _, _, hrest⟩ := h.of_second_reply hsecond
  rw [hv] at hrest
  exact hrest.2

lemma Course.unplanned (h : Course settings desired exchanges result) {first second : CommandLine}
    {fault : Fault} (hfirst : (executions exchanges)[0]? = some (first, .ok groupOutput))
    (hg : groupReport groupOutput = .ok (some group))
    (hsecond : (executions exchanges)[1]? = some (second, .ok volumeOutput))
    (hv : volumeReport volumeOutput = .ok volume) (hplan : plan desired group volume = .error fault) :
    result = .error fault := by
  obtain ⟨_, _, _, _, hread, hother, hrest⟩ := h.of_second_reply hsecond
  cases hread.symm.trans hfirst
  cases hother.symm.trans hg
  rw [hv] at hrest
  cases hrest with
  | refused hrefused =>
    cases hrefused.symm.trans hplan
    rfl
  | kept hkept => cases hkept.symm.trans hplan
  | change hchange _ => cases hchange.symm.trans hplan

end

/-- Whatever the runner answers, a run hands on the output of a command exactly if that command is the one
that failed it. -/
theorem run_diagnosed (settings : RunSettings) (desired : DesiredState) (runner : Runner) :
    Diagnosed desired ((reconcile settings desired).play runner) := by
  have hcourse := reconcile_course settings desired runner
  have hverdict := hcourse.verdict
  exact {
    failed_iff := hverdict.failed_iff
    last_output := fun _ _ hresult => hverdict.last_output hresult
    group_named := fun _ hmissing => hverdict.group_named hmissing
    volume_named := fun _ hfailed => hverdict.volume_named hfailed
    volume_report_blameless := fun _ hsecond _ _ hresult => hverdict.second_blameless hsecond hresult
    diagnostics_iff := fun _ _ => diagnostics_eq_some
    unanswered := fun e he hnone => hcourse.endsSilently ⟨e, he, hnone⟩
    unread := by
      rintro output fault (⟨⟨command, hfirst⟩, hg⟩ | ⟨⟨command, hsecond⟩, hv⟩)
      · exact ⟨hcourse.group_unread hfirst hg, groupReport_error hg⟩
      · exact ⟨hcourse.volume_unread hsecond hv, volumeReport_error hv⟩
    unplanned := fun _ _ _ _ _ _ _ hfirst hg hsecond hv hplan =>
      ⟨hcourse.unplanned hfirst hg hsecond hv hplan, plan_error hplan⟩ }

/-- The command that fails is the third one, so that the run hands on its output and not that of the second. -/
example : ((reconcile {} wantedVolume).play lockedGroup.runner).result =
    .error (.commandFailed (.make "testlv" (.create ⟨512, "jfs2", 1, .maximum, "", []⟩))
      ⟨1, "", "datavg is locked\n"⟩) := rfl

end LogicalVolumes
