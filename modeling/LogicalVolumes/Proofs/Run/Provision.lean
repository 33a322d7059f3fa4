import LogicalVolumes.Proofs.Capacity.Alignment
import LogicalVolumes.Proofs.Command.Amount
import LogicalVolumes.Proofs.Report.Group
import LogicalVolumes.Proofs.Run.Absence

/-! What a run provides for: the size of a new volume, and the growth of one that is there. -/

namespace LogicalVolumes

open Dialogue Text

def ReadsGroup (exchanges : List Exchange) (group : GroupFacts) : Prop :=
  ∃ command output, (executions exchanges)[0]? = some (command, .ok output) ∧
    groupReport output = .ok (some group)

def ReadsVolume (exchanges : List Exchange) (volume : VolumeFacts) : Prop :=
  ∃ command output, (executions exchanges)[1]? = some (command, .ok output) ∧
    volumeReport output = .ok (some volume)

/-- `size` is a whole number of units, and the least one that holds what is asked for. -/
def HoldsRequest (desired : DesiredState) (unitSize : Megabytes) (size : Nat) : Prop :=
  ∃ text requested, desired.size = some text ∧ convertSize text = .ok requested ∧ 1 ≤ requested.toNat ∧
    unitSize.toNat ∣ size ∧ requested.toNat ≤ size ∧ size < requested.toNat + unitSize.toNat

/-- A command as the run gives it out: itself, or behind `echo` on a dry run. -/
def RunSettings.given (settings : RunSettings) (command : CommandLine) : CommandLine :=
  if settings.dryRun then command.echoed settings.binaries.echo else command

/-- `command` makes a volume of `size` megabytes in as many copies as are asked for. -/
def MakesVolume (settings : RunSettings) (desired : DesiredState) (exchanges : List Exchange)
    (command : CommandLine) (size : Nat) : Prop :=
  ∃ program, .resolved settings.binaries.mklv (.ok program) ∈ exchanges ∧ command = settings.given ⟨program,
    ["-t", desired.volumeType, "-y", desired.volumeName, "-c", inDigits desired.copies.toNat, "-e",
      desired.policy.flag] ++ (words desired.extraOptions.toList).map String.ofList ++
    [desired.groupName, inDigits size ++ "M"] ++ desired.physicalVolumes⟩

/-- `command` lets the volume grow by `delta` megabytes. -/
def GrowsVolume (settings : RunSettings) (desired : DesiredState) (exchanges : List Exchange)
    (command : CommandLine) (delta : Nat) : Prop :=
  ∃ program, .resolved settings.binaries.extendlv (.ok program) ∈ exchanges ∧
    command = settings.given ⟨program, [desired.volumeName, inDigits delta ++ "M"]⟩

/-- Sizes are whole numbers of the partition size of the group that was read, which is never zero. -/
structure Provisioned (settings : RunSettings) (desired : DesiredState) (exchanges : List Exchange) :
    Prop where
  unit_pos : ∀ group, ReadsGroup exchanges group → 0 < group.unitSize
  created : ∀ program layout, settings.issued desired program (.create layout) ∈ commands exchanges →
    ∃ group size, ReadsGroup exchanges group ∧ HoldsRequest desired group.unitSize size ∧
      size ≤ group.freeCapacity.toNat ∧ 1 ≤ desired.copies.toNat ∧ desired.copies.toNat ≤ 3 ∧
      MakesVolume settings desired exchanges (settings.issued desired program (.create layout)) size
  extended : ∀ program delta target,
    settings.issued desired program (.resize delta target) ∈ commands exchanges →
    ∃ group volume, ReadsGroup exchanges group ∧ ReadsVolume exchanges volume ∧ 1 ≤ delta.toNat ∧
      volume.size.toNat + delta.toNat < UInt64.size ∧
      HoldsRequest desired group.unitSize (volume.size.toNat + delta.toNat) ∧
      GrowsVolume settings desired exchanges (settings.issued desired program (.resize delta target))
        delta.toNat

section

variable {settings : RunSettings} {desired : DesiredState} {program program' path name : String}
  {delta target size unitSize : Megabytes} {text : String} {group : GroupFacts}
  {observed : Option VolumeFacts} {change : Change} {layout : VolumeLayout}
  {exchanges : List Exchange} {result : Except Fault RunOutcome}

lemma given_injective : Function.Injective settings.given := by
  rintro ⟨program, args⟩ ⟨program', args'⟩ h
  cases hdry : settings.dryRun <;> simpa [RunSettings.given, hdry, CommandLine.echoed] using h

lemma eq_resize_of_issued
    (h : settings.issued desired program' (.resize delta target) = settings.issued desired program change) :
    ∃ other, change = .resize delta other := by
  have hargs := congrArg CommandLine.args (given_injective h)
  cases change with
  | create layout => simp [CommandLine.forChange, CommandLine.extendVolume, CommandLine.createVolume] at hargs
  | delete =>
    obtain ⟨hflag, hamount⟩ : desired.volumeName = "-f" ∧ CommandLine.amount delta = desired.volumeName := by
      simpa [CommandLine.forChange, CommandLine.extendVolume, CommandLine.removeVolume] using hargs
    exact absurd (hamount.trans hflag) (amount_ne_flag delta)
  | resize other target' =>
    obtain rfl := amount_injective
      (by simpa [CommandLine.forChange, CommandLine.extendVolume] using hargs : CommandLine.amount delta = _)
    exact ⟨target', rfl⟩
  | setPolicy policy =>
    simp [CommandLine.forChange, CommandLine.extendVolume, CommandLine.changePolicy] at hargs

lemma issued_args_length (settings : RunSettings) (desired : DesiredState) (program : String)
    (change : Change) :
    2 ≤ (settings.issued desired program change).args.length := by
  rw [issued_length]
  cases change with
  | create layout => simp [CommandLine.forChange, CommandLine.createVolume]; omega
  | delete => simp [CommandLine.forChange, CommandLine.removeVolume]
  | resize delta target => simp [CommandLine.forChange, CommandLine.extendVolume]
  | setPolicy policy => simp [CommandLine.forChange, CommandLine.changePolicy]; omega

lemma program_forChange (program : String) (change : Change) :
    (CommandLine.forChange program desired change).program = program := by
  cases change <;> rfl

lemma readsVolume_of_some {observed : Option VolumeFacts} {command : CommandLine} {output : CommandOutput}
    (hsecond : (executions exchanges)[1]? = some (command, .ok output))
    (hv : volumeReport output = .ok observed) :
    ∀ volume, observed = some volume → ReadsVolume exchanges volume := by
  rintro volume rfl
  exact ⟨command, output, hsecond, hv⟩

/-- A command for a change carries out what was planned from the two reports of the run. -/
lemma Course.change_origin (h : Course settings desired exchanges result)
    (hissued : settings.issued desired program change ∈ commands exchanges) :
    desired.validate = .ok () ∧ ∃ group observed planned,
      ReadsGroup exchanges group ∧ (∀ volume, observed = some volume → ReadsVolume exchanges volume) ∧
      plan desired group observed = .ok (.change planned) ∧
      .resolved (settings.binaries.forChange planned) (.ok program) ∈ exchanges ∧
      settings.issued desired program change = settings.issued desired program planned := by
  have hlong := issued_args_length settings desired program change
  rcases h.command_origin hissued with ⟨_, _, heq⟩ | ⟨_, _, heq⟩ | ⟨lsvg, lslv, hvalid, hgrounded⟩
  · simp [heq, CommandLine.reportGroup] at hlong
  · simp [heq, CommandLine.reportVolume] at hlong
  · obtain ⟨groupOutput, group, volumeOutput, observed, action, name, program', command, hprefix, hcode,
      hfacts, hv, hplan, hchange, hname, hcommand, hthird⟩ := hgrounded
    cases action with
    | keep reason => exact absurd rfl (hchange reason)
    | change planned =>
      obtain rfl : settings.binaries.forChange planned = name := by simpa [Binaries.forAction] using hname
      obtain rfl : CommandLine.forChange program' desired planned = command := by
        simpa [CommandLine.forAction] using hcommand
      obtain rfl : program = program' := by
        simpa only [program_forChange] using congrArg CommandLine.program (given_injective hthird)
      obtain ⟨rest, rfl⟩ := hprefix
      exact ⟨hvalid, group, observed, planned, ⟨_, groupOutput, rfl, groupReport_eq_some.mpr ⟨hcode, hfacts⟩⟩,
        readsVolume_of_some rfl hv, hplan, by simp, hthird⟩

lemma holdsRequest_of_target (hunit : 0 < unitSize) (htext : desired.size = some text)
    (h : targetSize text unitSize = .ok size) : HoldsRequest desired unitSize size.toNat := by
  obtain ⟨requested, hrequested, hpos, hsize⟩ := targetSize_eq_ok hunit h
  have hunit' : 0 < unitSize.toNat := UInt64.lt_iff_toNat_lt.mp hunit
  rw [hsize]
  exact ⟨text, requested, htext, hrequested, UInt64.lt_iff_toNat_lt.mp hpos, dvd_leastMultiple _ _,
    le_leastMultiple _ hunit', leastMultiple_lt _ hunit'⟩

lemma copies_of_valid (h : desired.validate = .ok ()) :
    1 ≤ desired.copies.toNat ∧ desired.copies.toNat ≤ 3 := by
  simp only [DesiredState.validate] at h
  split at h
  · cases h
  · split at h
    · cases h
    · split at h
      · cases h
      · next hcopies =>
        simp only [UInt8.lt_iff_toNat_lt, not_or, not_lt] at hcopies
        exact hcopies

lemma readsGroup_unit_pos (h : ReadsGroup exchanges group) : 0 < group.unitSize := by
  obtain ⟨_, _, _, hread⟩ := h
  exact unitSize_pos_of_report (groupReport_eq_some.mp hread).2

lemma Course.created (h : Course settings desired exchanges result)
    (hissued : settings.issued desired program (.create layout) ∈ commands exchanges) :
    ∃ group size, ReadsGroup exchanges group ∧ HoldsRequest desired group.unitSize size ∧
      size ≤ group.freeCapacity.toNat ∧ 1 ≤ desired.copies.toNat ∧ desired.copies.toNat ≤ 3 ∧
      MakesVolume settings desired exchanges (settings.issued desired program (.create layout)) size := by
  obtain ⟨hvalid, group, observed, planned, hgroup, _, hplan, hfound, heq⟩ := h.change_origin hissued
  obtain ⟨layout', rfl⟩ := eq_create_of_issued heq
  obtain ⟨hone, hthree⟩ := copies_of_valid hvalid
  cases plan_spec hplan with
  | create _ hcreate =>
    cases hcreate with
    | create htext hsize hfree htype hcopies hpolicy hoptions hphysical =>
      refine ⟨group, layout'.size.toNat, hgroup,
        holdsRequest_of_target (readsGroup_unit_pos hgroup) htext hsize,
        UInt64.le_iff_toNat_le.mp (UInt64.not_lt.mp hfree), hone, hthree, program, hfound, heq.trans ?_⟩
      rw [← htype, ← hcopies, ← hpolicy, ← hoptions, ← hphysical]
      rfl
  | update _ hupdate => cases hupdate

lemma Course.extended (h : Course settings desired exchanges result)
    (hissued : settings.issued desired program (.resize delta target) ∈ commands exchanges) :
    ∃ group volume, ReadsGroup exchanges group ∧ ReadsVolume exchanges volume ∧ 1 ≤ delta.toNat ∧
      volume.size.toNat + delta.toNat < UInt64.size ∧
      HoldsRequest desired group.unitSize (volume.size.toNat + delta.toNat) ∧
      GrowsVolume settings desired exchanges (settings.issued desired program (.resize delta target))
        delta.toNat := by
  obtain ⟨_, group, observed, planned, hgroup, hvolume, hplan, hfound, heq⟩ := h.change_origin hissued
  obtain ⟨aligned, rfl⟩ := eq_resize_of_issued heq
  cases plan_spec hplan with
  | create _ hcreate => cases hcreate
  | @update volume _ _ hupdate =>
    cases hupdate with
    | grow _ _ htext hsize hlt =>
      have hrequest := holdsRequest_of_target (readsGroup_unit_pos hgroup) htext hsize
      rw [UInt64.lt_iff_toNat_lt] at hlt
      have hdelta : (aligned - volume.size).toNat = aligned.toNat - volume.size.toNat :=
        UInt64.toNat_sub_of_le _ _ (UInt64.le_iff_toNat_le.mpr hlt.le)
      have hsum : volume.size.toNat + (aligned - volume.size).toNat = aligned.toNat := by omega
      refine ⟨group, volume, hgroup, hvolume volume rfl, by omega, ?_, ?_, program, hfound, rfl⟩
      · rw [hsum]
        exact UInt64.toNat_lt_size aligned
      · rwa [hsum]

end

/-- Whatever the runner answers, a command that makes a volume or lets it grow gives it a whole number of
units, as few as hold what is asked for. -/
theorem run_provisioned (settings : RunSettings) (desired : DesiredState) (runner : Runner) :
    Provisioned settings desired ((reconcile settings desired).play runner).exchanges :=
  have hcourse := reconcile_course settings desired runner
  { unit_pos := fun _ hgroup => readsGroup_unit_pos hgroup
    created := fun _ _ hissued => hcourse.created hissued
    extended := fun _ _ _ hissued => hcourse.extended hissued }

/-- From 512 megabytes to the 1024 that hold the 1000 asked for. -/
example : (commands ((reconcile {} { wantedVolume with size := some "1000M" }).play
    (sampleScript "testlv" "datavg").runner).exchanges)[2]? =
      some ⟨"/usr/sbin/extendlv", ["testlv", "512M"]⟩ := by
  decide +kernel

end LogicalVolumes
