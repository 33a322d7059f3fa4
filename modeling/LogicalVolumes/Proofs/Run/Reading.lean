import LogicalVolumes.Proofs.Plan.Decision
import LogicalVolumes.Proofs.Report.Volume
import LogicalVolumes.Proofs.Run.Order

/-! Runs in which both reports are complete: what is left of them is to carry a plan out. -/

namespace LogicalVolumes

open Dialogue Text

structure Survey where
  lsvg : String
  lslv : String
  groupOutput : CommandOutput
  volumeOutput : CommandOutput
  group : GroupFacts
  volume : List Char
  owner : List Char
  partitions : UInt64
  unitSize : Megabytes
  policy : PlacementPolicy

namespace Survey

def exchanges (survey : Survey) (settings : RunSettings) (desired : DesiredState) : List Exchange :=
  found settings survey.lsvg survey.lslv ++
    [.executed (.reportGroup survey.lsvg desired.groupName) (.ok survey.groupOutput),
      .executed (.reportVolume survey.lslv desired.volumeName) (.ok survey.volumeOutput)]

/-- The runner finds the two programs, and their reports end well and are complete. -/
structure Holds (survey : Survey) (runner : Runner) (settings : RunSettings)
    (desired : DesiredState) : Prop where
  valid : desired.validate = .ok ()
  lsvg_found : runner.resolve [] settings.binaries.lsvg = .ok survey.lsvg
  lslv_found : runner.resolve [.resolved settings.binaries.lsvg (.ok survey.lsvg)] settings.binaries.lslv =
    .ok survey.lslv
  group_reported : runner.execute (found settings survey.lsvg survey.lslv)
    (.reportGroup survey.lsvg desired.groupName) = .ok survey.groupOutput
  volume_reported : runner.execute (found settings survey.lsvg survey.lslv ++
    [.executed (.reportGroup survey.lsvg desired.groupName) (.ok survey.groupOutput)])
    (.reportVolume survey.lslv desired.volumeName) = .ok survey.volumeOutput
  group_ended : survey.groupOutput.exitCode = 0
  group_complete : GroupFacts.ofReport survey.groupOutput.stdout = .ok (some survey.group)
  volume_ended : survey.volumeOutput.exitCode = 0
  volume_complete : IsVolumeReport survey.volume survey.owner survey.partitions survey.unitSize survey.policy
    survey.volumeOutput.stdout
  size_fits : survey.partitions.toNat * survey.unitSize.toNat < UInt64.size

def facts? (survey : Survey) : Option VolumeFacts :=
  if IsLegible survey.volume survey.owner then
    some ⟨String.ofList survey.volume, String.ofList (survey.owner.takeWhile isWord),
      survey.partitions * survey.unitSize, survey.policy⟩
  else none

end Survey

section

variable {survey : Survey} {runner : Runner} {settings : RunSettings} {desired : DesiredState}

lemma Survey.Holds.reconcile (h : survey.Holds runner settings desired) :
    (reconcile settings desired).play runner =
      let rest := (carryOut settings desired survey.group survey.facts?).playAfter runner
        (survey.exchanges settings desired)
      ⟨survey.exchanges settings desired ++ rest.exchanges, rest.result⟩ := by
  have hgroup : groupReport survey.groupOutput = .ok (some survey.group) :=
    groupReport_eq_some.mpr ⟨h.group_ended, h.group_complete⟩
  have hvolume : volumeReport survey.volumeOutput = .ok survey.facts? := by
    rw [volumeReport, if_pos (succeeded_iff.mpr h.volume_ended)]
    exact volumeFacts_ofReport h.volume_complete h.size_fits
  have hfirst : runner.execute ([.resolved settings.binaries.lsvg (.ok survey.lsvg)] ++
      [.resolved settings.binaries.lslv (.ok survey.lslv)]) (.reportGroup survey.lsvg desired.groupName) =
      .ok survey.groupOutput := h.group_reported
  have hsecond : runner.execute ([.resolved settings.binaries.lsvg (.ok survey.lsvg)] ++
      [.resolved settings.binaries.lslv (.ok survey.lslv)] ++
      [.executed (.reportGroup survey.lsvg desired.groupName) (.ok survey.groupOutput)])
      (.reportVolume survey.lslv desired.volumeName) = .ok survey.volumeOutput := h.volume_reported
  unfold LogicalVolumes.reconcile play
  rw [h.valid]
  simp only [resolving_ok h.lsvg_found, List.nil_append, resolving_ok h.lslv_found, withGroup,
    executing_ok hfirst, hgroup, withVolume, executing_ok hsecond, hvolume]
  rfl

lemma Survey.commands_exchanges (exchanges : List Exchange) :
    commands (survey.exchanges settings desired ++ exchanges) = .reportGroup survey.lsvg desired.groupName ::
      .reportVolume survey.lslv desired.volumeName :: commands exchanges := rfl

lemma Fault.OfRunner.not_otherGroup {fault : Fault} (h : fault.OfRunner) (volume group : String) :
    fault ≠ .otherGroup volume group := by
  rintro rfl
  cases h

lemma makeChange_result (settings : RunSettings) (desired : DesiredState) (runner : Runner)
    (past : List Exchange) (change : Change) :
    let result := ((makeChange settings desired change).playAfter runner past).result
    result = .ok (.changed desired.volumeName change) ∨
      ∃ fault, result = .error fault ∧ ∀ volume group, fault ≠ .otherGroup volume group := by
  have hcourse := makeChange_course settings desired runner past change
  generalize ((makeChange settings desired change).playAfter runner past).exchanges = exchanges at hcourse
  generalize ((makeChange settings desired change).playAfter runner past).result = result at hcourse
  cases hcourse with
  | programMissing hfault => exact .inr ⟨_, rfl, hfault.not_otherGroup⟩
  | unanswered _ hfault => exact .inr ⟨_, rfl, hfault.not_otherGroup⟩
  | failed _ _ => exact .inr ⟨_, rfl, by simp⟩
  | made _ _ => exact .inl rfl

lemma makeChange_commands (change : Change) (past : List Exchange) :
    commands ((makeChange settings desired change).playAfter runner past).exchanges =
      ((runner.resolve past (settings.binaries.forChange change)).toOption.map
        (settings.issued desired · change)).toList := by
  rw [makeChange_eq]
  cases hp : runner.resolve past (settings.binaries.forChange change) with
  | error fault => simp [resolving_error hp, Except.toOption]
  | ok program =>
    rw [resolving_ok hp]
    cases hr : runner.execute (past ++ [.resolved (settings.binaries.forChange change) (.ok program)])
        (settings.issued desired program change) with
    | error fault => simp [executing_error hr, Except.toOption]
    | ok output =>
      cases hs : output.succeeded with
      | true => simp [executing_ok hr, hs, playAfter, Except.toOption]
      | false => simp [executing_ok hr, hs, fail, playAfter, Except.toOption]

end

def reportScript (groupOutput volumeOutput : CommandOutput) : Script :=
  { replies := [("lsvg", .ok groupOutput), ("lslv", .ok volumeOutput)] }

section

variable (groupOutput volumeOutput : CommandOutput) (past : List Exchange)

lemma reportScript_group (args : List String) :
    (reportScript groupOutput volumeOutput).runner.execute past ⟨"/usr/sbin/lsvg", args⟩ =
      .ok groupOutput := by
  have hname : Script.baseName "/usr/sbin/lsvg" = "lsvg" := by decide +kernel
  simp only [Script.runner, reportScript, hname, List.lookup_cons_self, Option.getD_some]
  rfl

lemma reportScript_volume (args : List String) :
    (reportScript groupOutput volumeOutput).runner.execute past ⟨"/usr/sbin/lslv", args⟩ =
      .ok volumeOutput := by
  have hname : Script.baseName "/usr/sbin/lslv" = "lslv" := by decide +kernel
  have hother : ("lslv" == "lsvg") = false := by decide +kernel
  simp only [Script.runner, reportScript, hname, List.lookup_cons, hother, beq_self_eq_true, Option.getD_some]
  rfl

/-- Any other command ends well and prints nothing. -/
lemma reportScript_other {command : CommandLine}
    (hgroup : (Script.baseName command.program == "lsvg") = false)
    (hvolume : (Script.baseName command.program == "lslv") = false) :
    (reportScript groupOutput volumeOutput).runner.execute past command = .ok ⟨0, "", ""⟩ := by
  simp only [Script.runner, reportScript, List.lookup_cons, hgroup, hvolume, List.lookup_nil,
    Option.getD_none]
  rfl

end

def sampleSurvey (volume owner : String) : Survey where
  lsvg := "/usr/sbin/lsvg"
  lslv := "/usr/sbin/lslv"
  groupOutput := ⟨0, sampleGroupReport, ""⟩
  volumeOutput := ⟨0, sampleReport volume owner, ""⟩
  group := ⟨"datavg", 3200, 1600, 32⟩
  volume := volume.toList
  owner := owner.toList
  partitions := 16
  unitSize := 32
  policy := .maximum

def sampleScript (volume owner : String) : Script :=
  { replies := [("lsvg", .ok (sampleSurvey volume owner).groupOutput),
      ("lslv", .ok (sampleSurvey volume owner).volumeOutput)] }

lemma sampleScript_group (volume owner : String) (past : List Exchange) (args : List String) :
    (sampleScript volume owner).runner.execute past ⟨"/usr/sbin/lsvg", args⟩ =
      .ok (sampleSurvey volume owner).groupOutput :=
  reportScript_group _ _ past args

lemma sampleScript_volume (volume owner : String) (past : List Exchange) (args : List String) :
    (sampleScript volume owner).runner.execute past ⟨"/usr/sbin/lslv", args⟩ =
      .ok (sampleSurvey volume owner).volumeOutput :=
  reportScript_volume _ _ past args

lemma sampleGroupReport_complete :
    GroupFacts.ofReport sampleGroupReport = .ok (some ⟨"datavg", 3200, 1600, 32⟩) := by
  have hscan : GroupRecord.scan sampleGroupReport = ⟨some "datavg", some 3200, some 1600, some 32⟩ := by
    decide +kernel
  rw [GroupFacts.ofReport, hscan]
  rfl

lemma sampleSurvey_holds {volume owner : String} (hvolume : IsSolid volume.toList)
    (howner : IsSolid owner.toList) {desired : DesiredState} (hvalid : desired.validate = .ok ()) :
    (sampleSurvey volume owner).Holds (sampleScript volume owner).runner {} desired where
  valid := hvalid
  lsvg_found := rfl
  lslv_found := rfl
  group_reported := sampleScript_group volume owner _ _
  volume_reported := sampleScript_volume volume owner _ _
  group_ended := rfl
  group_complete := sampleGroupReport_complete
  volume_ended := rfl
  volume_complete := sampleReport_complete hvolume howner
  size_fits := (by decide : (16 : UInt64).toNat * (32 : UInt64).toNat < UInt64.size)

end LogicalVolumes
