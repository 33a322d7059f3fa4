import LogicalVolumes.Proofs.Report.Printed
import LogicalVolumes.Proofs.Run.Reading

/-! On a system that reports its true state, a run does what the plan for that state says. -/

namespace LogicalVolumes

open Dialogue

/-- The reply to the second report: it shows the volume, or fails because there is none. -/
def ShowsVolume (reply : Except Fault CommandOutput) : Option VolumeState → Prop
  | some volume =>
    ∃ (layout : VolumeReportLayout) (stderr : String), reply = .ok ⟨0, layout.print volume, stderr⟩
  | none => ∃ output, reply = .ok output ∧ output.exitCode ≠ 0

/-- Every program is found, the two reports show the state of the system, and any other command ends well. -/
structure Served (group : GroupState) (volume : Option VolumeState) (exchanges : List Exchange) : Prop where
  programs_found : ∀ name fault, .resolved name (.error fault) ∉ exchanges
  group_shown : ∀ command reply, (executions exchanges)[0]? = some (command, reply) →
    ∃ (layout : GroupLayout) (stderr : String), reply = .ok ⟨0, layout.print group.toGroupFacts, stderr⟩
  volume_shown : ∀ command reply, (executions exchanges)[1]? = some (command, reply) →
    ShowsVolume reply volume
  change_made : ∀ i command reply, 2 ≤ i → (executions exchanges)[i]? = some (command, reply) →
    ∃ output, reply = .ok output ∧ output.exitCode = 0

/-- The run ends in the fault of the plan or with its action, for which it runs the one command that carries
the action out, if there is one. -/
structure CarriesOut (binaries : Binaries) (desired : DesiredState) (planned : Except Fault Action)
    (run : Transcript (Except Fault RunOutcome)) : Prop where
  reports : ∃ lsvg lslv, .resolved binaries.lsvg (.ok lsvg) ∈ run.exchanges ∧
    .resolved binaries.lslv (.ok lslv) ∈ run.exchanges ∧ (commands run.exchanges).take 2 =
      [.reportGroup lsvg desired.groupName, .reportVolume lslv desired.volumeName]
  error_iff : ∀ fault, run.result = .error fault ↔ planned = .error fault
  refused : ∀ fault, planned = .error fault → (commands run.exchanges).drop 2 = []
  done : ∀ action, planned = .ok action → ∃ outcome program, run.result = .ok outcome ∧
    outcome.action? = some action ∧ (outcome.isChange = true ↔ ∀ reason, action ≠ .keep reason) ∧
    (∀ name, binaries.forAction action = some name → .resolved name (.ok program) ∈ run.exchanges) ∧
    (commands run.exchanges).drop 2 = (CommandLine.forAction program desired action).toList

/-- The exchanges of a run that has both replies, and then `rest`. -/
def surveyed (settings : RunSettings) (desired : DesiredState) (lsvg lslv : String)
    (groupReply volumeReply : Except Fault CommandOutput) (rest : List Exchange) : List Exchange :=
  found settings lsvg lslv ++ .executed (.reportGroup lsvg desired.groupName) groupReply ::
    .executed (.reportVolume lslv desired.volumeName) volumeReply :: rest

section

variable {settings : RunSettings} {binaries : Binaries} {desired : DesiredState} {group : GroupState}
  {volume : Option VolumeState} {exchanges : List Exchange} {result : Except Fault RunOutcome}
  {lsvg lslv : String} {output : CommandOutput}

lemma Served.group_read (h : Served group volume exchanges) {command : CommandLine}
    (hfirst : (executions exchanges)[0]? = some (command, .ok output)) :
    groupReport output = .ok (some group.toGroupFacts) := by
  obtain ⟨layout, stderr, hreply⟩ := h.group_shown _ _ hfirst
  cases hreply
  exact groupReport_eq_some.mpr ⟨rfl, ofReport_printGroup layout group⟩

lemma volumeReport_shown (h : ShowsVolume (.ok output) volume) :
    volumeReport output = .ok (volume.map VolumeState.facts) := by
  cases volume with
  | some volume =>
    obtain ⟨layout, stderr, hreply⟩ := h
    cases hreply
    rw [volumeReport, if_pos (succeeded_iff.mpr rfl), ofReport_printVolume, Option.map_some]
  | none =>
    obtain ⟨other, hreply, hcode⟩ := h
    cases hreply
    rw [volumeReport, if_neg (mt succeeded_iff.mp hcode), Option.map_none]

lemma ShowsVolume.not_error {fault : Fault} : ¬ ShowsVolume (.error fault) volume := by
  cases volume with
  | some volume => rintro ⟨_, _, ⟨⟩⟩
  | none => rintro ⟨_, ⟨⟩, _⟩

lemma VolumeCourse.served {groupReply : Except Fault CommandOutput}
    (h : VolumeCourse settings desired lslv group.toGroupFacts exchanges result)
    (hserved : Served group volume (LogicalVolumes.found settings lsvg lslv ++
      .executed (.reportGroup lsvg desired.groupName) groupReply :: exchanges)) :
    ∃ reply rest, exchanges = .executed (.reportVolume lslv desired.volumeName) reply :: rest ∧
      PlanCourse settings desired group.toGroupFacts (volume.map VolumeState.facts) rest result := by
  cases h with
  | unanswered _ => exact absurd (hserved.volume_shown _ _ rfl) ShowsVolume.not_error
  | unreadable hv =>
    rw [volumeReport_shown (hserved.volume_shown _ _ rfl)] at hv
    cases hv
  | read hv hplan =>
    rw [volumeReport_shown (hserved.volume_shown _ _ rfl)] at hv
    cases hv
    exact ⟨_, _, rfl, hplan⟩

lemma Course.served (h : Course settings desired exchanges result) (hvalid : desired.validate = .ok ())
    (hserved : Served group volume exchanges) : ∃ lsvg lslv groupReply volumeReply rest,
      exchanges = surveyed settings desired lsvg lslv groupReply volumeReply rest ∧
      PlanCourse settings desired group.toGroupFacts (volume.map VolumeState.facts) rest result := by
  cases h with
  | misconfigured hcause => cases hvalid.symm.trans hcause
  | @lsvgMissing fault _ _ => exact absurd (by simp) (hserved.programs_found settings.binaries.lsvg fault)
  | @lslvMissing lsvg fault _ _ => exact absurd (by simp) (hserved.programs_found settings.binaries.lslv fault)
  | found lsvg lslv _ hgroup =>
    cases hgroup with
    | unanswered _ =>
      obtain ⟨_, _, hreply⟩ := hserved.group_shown _ _ rfl
      cases hreply
    | unreadable hg => cases (hserved.group_read rfl).symm.trans hg
    | absent hg _ => cases (hserved.group_read rfl).symm.trans hg
    | missing hg _ => cases (hserved.group_read rfl).symm.trans hg
    | read hg hvolume =>
      cases (hserved.group_read rfl).symm.trans hg
      obtain ⟨reply, rest, rfl, hplan⟩ := hvolume.served hserved
      exact ⟨lsvg, lslv, _, reply, rest, rfl, hplan⟩

variable {groupReply volumeReply : Except Fault CommandOutput} {rest : List Exchange}
  {planned : Except Fault Action}

lemma surveyed_reports : ∃ lsvg' lslv',
    .resolved binaries.lsvg (.ok lsvg') ∈
      surveyed ⟨false, binaries⟩ desired lsvg lslv groupReply volumeReply rest ∧
    .resolved binaries.lslv (.ok lslv') ∈
      surveyed ⟨false, binaries⟩ desired lsvg lslv groupReply volumeReply rest ∧
    (commands (surveyed ⟨false, binaries⟩ desired lsvg lslv groupReply volumeReply rest)).take 2 =
      [.reportGroup lsvg' desired.groupName, .reportVolume lslv' desired.volumeName] :=
  ⟨lsvg, lslv, by simp [surveyed, found], by simp [surveyed, found], rfl⟩

lemma PlanCourse.carriesOut {facts : GroupFacts} {observed : Option VolumeFacts}
    (h : PlanCourse ⟨false, binaries⟩ desired facts observed rest result)
    (hserved : Served group volume
      (surveyed ⟨false, binaries⟩ desired lsvg lslv groupReply volumeReply rest)) :
    CarriesOut binaries desired (plan desired facts observed)
      ⟨surveyed ⟨false, binaries⟩ desired lsvg lslv groupReply volumeReply rest, result⟩ := by
  cases h with
  | refused hplan =>
    rw [hplan]
    exact ⟨surveyed_reports, by simp, by simp [surveyed, found], by simp⟩
  | @kept reason hplan =>
    rw [hplan]
    refine ⟨surveyed_reports, by simp, by simp, ?_⟩
    rintro _ ⟨rfl⟩
    exact ⟨.kept desired.volumeName reason, "", rfl, rfl, by simp, by simp [Binaries.forAction], rfl⟩
  | @change change _ _ hplan hchange =>
    rw [hplan]
    cases hchange with
    | @programMissing fault _ =>
      exact absurd (by simp [surveyed, found]) (hserved.programs_found (binaries.forChange change) fault)
    | unanswered program _ =>
      obtain ⟨_, hreply, _⟩ := hserved.change_made 2 _ _ (Nat.le_refl 2) rfl
      cases hreply
    | failed program hfailed =>
      obtain ⟨_, hreply, hcode⟩ := hserved.change_made 2 _ _ (Nat.le_refl 2) rfl
      cases hreply
      simp [CommandOutput.succeeded, hcode] at hfailed
    | made program _ =>
      refine ⟨surveyed_reports, by simp, by simp, ?_⟩
      rintro _ ⟨rfl⟩
      exact ⟨.changed desired.volumeName change, program, rfl, rfl, by simp,
        by rintro _ ⟨rfl⟩; simp [surveyed, found], rfl⟩

end

/-- A run on a system that reports its true state ends as the plan for that state says, and runs the command
that carries out the planned action. -/
theorem run_carries_out_plan (binaries : Binaries) (desired : DesiredState) (runner : Runner)
    (group : GroupState) (volume : Option VolumeState) (hvalid : desired.validate = .ok ())
    (hserved : Served group volume ((reconcile ⟨false, binaries⟩ desired).play runner).exchanges) :
    CarriesOut binaries desired (plan desired group.toGroupFacts (volume.map VolumeState.facts))
      ((reconcile ⟨false, binaries⟩ desired).play runner) := by
  have hcourse := reconcile_course ⟨false, binaries⟩ desired runner
  generalize (reconcile ⟨false, binaries⟩ desired).play runner = run at hcourse hserved ⊢
  obtain ⟨exchanges, result⟩ := run
  obtain ⟨lsvg, lslv, groupReply, volumeReply, rest, rfl, hplan⟩ := hcourse.served hvalid hserved
  exact hplan.carriesOut hserved

def sampleOutputs : CommandOutput × CommandOutput :=
  (⟨0, sampleGroupLayout.print sampleGroup.toGroupFacts, ""⟩, ⟨0, sampleVolumeLayout.print sampleVolume, ""⟩)

def printedSurvey : Survey where
  lsvg := "/usr/sbin/lsvg"
  lslv := "/usr/sbin/lslv"
  groupOutput := sampleOutputs.1
  volumeOutput := sampleOutputs.2
  group := sampleGroup.toGroupFacts
  volume := sampleVolume.name.toList
  owner := sampleVolume.groupName.toList
  partitions := sampleVolume.partitions
  unitSize := sampleVolume.unitSize
  policy := sampleVolume.policy

def grownVolume : DesiredState := { DesiredState.ofNames "testvg" "testlv" with size := some "1200M" }

def sampleGrowth : Transcript (Except Fault RunOutcome) :=
  (reconcile ⟨false, {}⟩ grownVolume).play (reportScript sampleOutputs.1 sampleOutputs.2).runner

lemma printedSurvey_holds :
    printedSurvey.Holds (reportScript sampleOutputs.1 sampleOutputs.2).runner {} grownVolume where
  valid := rfl
  lsvg_found := rfl
  lslv_found := rfl
  group_reported := reportScript_group _ _ _ _
  volume_reported := reportScript_volume _ _ _ _
  group_ended := rfl
  group_complete := ofReport_printGroup sampleGroupLayout sampleGroup
  volume_ended := rfl
  volume_complete := isVolumeReport_print sampleVolumeLayout sampleVolume
  size_fits := sampleVolume.size_fits

lemma makeChange_made {settings : RunSettings} {desired : DesiredState} {runner : Runner}
    {past : List Exchange} {change : Change} {program : String} {output : CommandOutput}
    (hfound : runner.resolve past (settings.binaries.forChange change) = .ok program)
    (hreply : ∀ past, runner.execute past (settings.issued desired program change) = .ok output)
    (hcode : output.exitCode = 0) : (makeChange settings desired change).playAfter runner past =
      ⟨[.resolved (settings.binaries.forChange change) (.ok program),
        .executed (settings.issued desired program change) (.ok output)],
        .ok (.changed desired.volumeName change)⟩ := by
  rw [makeChange_eq, resolving_ok hfound, executing_ok (hreply _), if_pos (succeeded_iff.mpr hcode)]
  rfl

lemma sampleGrowth_eq : sampleGrowth = ⟨printedSurvey.exchanges {} grownVolume ++
    [.resolved "extendlv" (.ok "/usr/sbin/extendlv"),
      .executed (.extendVolume "/usr/sbin/extendlv" "testlv" 688) (.ok ⟨0, "", ""⟩)],
    .ok (.changed "testlv" (.resize 688 1200))⟩ := by
  have hfacts : printedSurvey.facts? = some ⟨"testlv", "testvg", 512, .maximum⟩ := by
    rw [Survey.facts?, if_pos (by decide +kernel)]
    rfl
  have hplan : plan grownVolume printedSurvey.group (some ⟨"testlv", "testvg", 512, .maximum⟩) =
      .ok (.change (.resize 688 1200)) := rfl
  have hreply : ∀ past, (reportScript sampleOutputs.1 sampleOutputs.2).runner.execute past
      (RunSettings.issued {} grownVolume "/usr/sbin/extendlv" (.resize 688 1200)) = .ok ⟨0, "", ""⟩ :=
    fun past => reportScript_other _ _ past (by decide +kernel) (by decide +kernel)
  rw [sampleGrowth, printedSurvey_holds.reconcile, hfacts, carryOut, hplan]
  simp only [makeChange_made rfl hreply rfl]
  rfl

lemma sampleGrowth_served : Served sampleGroup (some sampleVolume) sampleGrowth.exchanges := by
  rw [sampleGrowth_eq]
  refine ⟨by simp [Survey.exchanges, found], ?_, ?_, ?_⟩
  · rintro command reply h
    cases h
    exact ⟨sampleGroupLayout, "", rfl⟩
  · rintro command reply h
    cases h
    exact ⟨sampleVolumeLayout, "", rfl⟩
  · intro i command reply hi h
    obtain ⟨later, rfl⟩ := Nat.exists_eq_add_of_le' hi
    cases later with
    | zero =>
      cases h
      exact ⟨_, rfl, rfl⟩
    | succ later => simp [Survey.exchanges, found] at h

theorem volume_grown_as_planned :
    grownVolume.validate = .ok () ∧ Served sampleGroup (some sampleVolume) sampleGrowth.exchanges ∧
    plan grownVolume sampleGroup.toGroupFacts (some sampleVolume.facts) = .ok (.change (.resize 688 1200)) ∧
    (commands sampleGrowth.exchanges).drop 2 = [⟨"/usr/sbin/extendlv", ["testlv", "688M"]⟩] ∧
    CarriesOut {} grownVolume (plan grownVolume sampleGroup.toGroupFacts (some sampleVolume.facts))
      sampleGrowth := by
  have hcarried : CarriesOut {} grownVolume
      (plan grownVolume sampleGroup.toGroupFacts (some sampleVolume.facts)) sampleGrowth :=
    run_carries_out_plan {} grownVolume _ sampleGroup (some sampleVolume) rfl sampleGrowth_served
  have hlast : (commands sampleGrowth.exchanges).drop 2 = [⟨"/usr/sbin/extendlv", ["testlv", "688M"]⟩] := by
    rw [sampleGrowth_eq]
    rfl
  exact ⟨rfl, sampleGrowth_served, rfl, hlast, hcarried⟩

end LogicalVolumes
