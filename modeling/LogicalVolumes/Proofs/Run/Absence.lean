import LogicalVolumes.Proofs.Run.Reading

/-! When a volume that exists is taken for one that does not. -/

namespace LogicalVolumes

open Dialogue Text

def TakenForAbsent (settings : RunSettings) (desired : DesiredState)
    (run : Transcript (Except Fault RunOutcome)) : Prop :=
  run.result = .ok (.kept desired.volumeName .alreadyAbsent) ∨
  ∃ program layout, settings.issued desired program (.create layout) ∈ commands run.exchanges

section

variable {settings : RunSettings} {desired : DesiredState} {program : String}
  {survey : Survey} {runner : Runner} {past : List Exchange}

lemma issued_length (change : Change) : (settings.issued desired program change).args.length =
    (CommandLine.forChange program desired change).args.length + settings.dryRun.toNat := by
  cases hdry : settings.dryRun <;> simp [RunSettings.issued, hdry, CommandLine.echoed]

lemma creation_length (settings : RunSettings) (desired : DesiredState) (program : String)
    (layout : VolumeLayout) :
    10 + settings.dryRun.toNat ≤ (settings.issued desired program (.create layout)).args.length := by
  rw [issued_length]
  simp [CommandLine.forChange, CommandLine.createVolume]
  omega

lemma eq_create_of_issued {program' : String} {layout : VolumeLayout} {change : Change}
    (h : settings.issued desired program' (.create layout) = settings.issued desired program change) :
    ∃ layout', change = .create layout' := by
  -- a command that makes a volume has more words than any other
  have hlong := creation_length settings desired program' layout
  rw [h, issued_length] at hlong
  cases change with
  | create layout' => exact ⟨layout', rfl⟩
  | delete => simp [CommandLine.forChange, CommandLine.removeVolume] at hlong
  | resize delta target => simp [CommandLine.forChange, CommandLine.extendVolume] at hlong
  | setPolicy policy => simp [CommandLine.forChange, CommandLine.changePolicy] at hlong

lemma creation_ne_report (program : String) (layout : VolumeLayout) (path name : String) :
    settings.issued desired program (.create layout) ≠ ⟨path, [name]⟩ := by
  intro h
  have hlong := creation_length settings desired program layout
  rw [h] at hlong
  simp at hlong
  omega

lemma takenForAbsent_surveyed {rest : Transcript (Except Fault RunOutcome)} :
    TakenForAbsent settings desired ⟨survey.exchanges settings desired ++ rest.exchanges, rest.result⟩ ↔
      TakenForAbsent settings desired rest := by
  simp only [TakenForAbsent, Survey.commands_exchanges, List.mem_cons, CommandLine.reportGroup,
    CommandLine.reportVolume, creation_ne_report, false_or]

lemma makeChange_not_kept (change : Change) (volume : String) (reason : KeepReason) :
    ((makeChange settings desired change).playAfter runner past).result ≠ .ok (.kept volume reason) := by
  rcases makeChange_result settings desired runner past change with h | ⟨fault, h, _⟩
  · simp [h]
  · simp [h]

lemma toOption_eq_some {α ε : Type} {answer : Except ε α} {a : α} :
    answer.toOption = some a ↔ answer = .ok a := by
  cases answer <;> simp [Except.toOption]

lemma makeChange_taken (change : Change) :
    TakenForAbsent settings desired ((makeChange settings desired change).playAfter runner past) ↔
      (∃ layout, change = .create layout) ∧
      ∃ program, runner.resolve past (settings.binaries.forChange change) = .ok program := by
  simp only [TakenForAbsent, makeChange_not_kept, false_or, makeChange_commands, Option.mem_toList,
    Option.map_eq_some_iff, toOption_eq_some]
  constructor
  · rintro ⟨program, layout, program', hfound, hissued⟩
    exact ⟨eq_create_of_issued hissued.symm, program', hfound⟩
  · rintro ⟨⟨layout, rfl⟩, program, hfound⟩
    exact ⟨program, layout, program, hfound, rfl⟩

lemma fault_not_taken (fault : Fault) :
    ¬ TakenForAbsent settings desired ((fail fault).playAfter runner past) := by
  simp [TakenForAbsent, fail, playAfter]

lemma carryOut_none_taken (group : GroupFacts) :
    TakenForAbsent settings desired ((carryOut settings desired group none).playAfter runner past) ↔
      desired.presence = .absent ∨ ∃ layout program,
        planCreation desired group = .ok (.change (.create layout)) ∧
        runner.resolve past settings.binaries.mklv = .ok program := by
  cases hp : desired.presence with
  | absent => simp [carryOut, plan, hp, TakenForAbsent, playAfter]
  | present =>
    have hplan := planCreation_spec desired group
    cases hresult : planCreation desired group with
    | error fault => simp [carryOut, plan, hp, hresult, fault_not_taken]
    | ok action =>
      rw [hresult] at hplan
      cases hplan with
      | create _ _ _ _ _ _ _ _ =>
        simp only [carryOut, plan, hp, hresult, makeChange_taken]
        simp [Binaries.forChange]

lemma carryOut_some_not_taken (group : GroupFacts) (volume : VolumeFacts) :
    ¬ TakenForAbsent settings desired
      ((carryOut settings desired group (some volume)).playAfter runner past) := by
  have hplanned := plan_spec (rfl : plan desired group (some volume) = _)
  cases hplan : plan desired group (some volume) with
  | error fault => simpa only [carryOut, hplan] using fault_not_taken fault
  | ok action =>
    rw [hplan] at hplanned
    cases action with
    | keep reason =>
      simp only [carryOut, hplan, TakenForAbsent, playAfter, commands_nil]
      rintro (h | ⟨_, _, h⟩)
      · cases h
        cases hplanned with | update _ hupdate => cases hupdate
      · simp at h
    | change change =>
      simp only [carryOut, hplan, makeChange_taken]
      rintro ⟨⟨layout, rfl⟩, _⟩
      cases hplanned with | update _ hupdate => cases hupdate

lemma legible_iff_word (volume : List Char) {owner : List Char} (howner : owner ≠ [])
    (hword : ∀ c ∈ owner, isWord c = true) :
    IsLegible volume owner ↔ ∀ c ∈ volume, isWord c = true := by
  have hall : owner.takeWhile isWord = owner := by simpa using takeWhile_append (t := []) hword (by simp)
  simp [IsLegible, hall, howner]

end

/-- With both reports complete, a volume that is there is taken for an absent one exactly if its name is not
one word and the plan for an absent volume is one that the run can act on. -/
theorem taken_for_absent_iff (survey : Survey) (runner : Runner) (settings : RunSettings)
    (desired : DesiredState) (h : survey.Holds runner settings desired)
    (hvolume : survey.volume = desired.volumeName.toList) (howner : ∀ c ∈ survey.owner, isWord c = true) :
    TakenForAbsent settings desired ((reconcile settings desired).play runner) ↔
      (∃ c ∈ desired.volumeName.toList, isWord c = false) ∧
      (desired.presence = .absent ∨ ∃ layout program,
        planCreation desired survey.group = .ok (.change (.create layout)) ∧
        runner.resolve (survey.exchanges settings desired) settings.binaries.mklv = .ok program) := by
  obtain ⟨_, _, _, hsolid, _⟩ := h.volume_complete.has_names
  have hlegible := legible_iff_word desired.volumeName.toList hsolid.1 howner
  rw [h.reconcile, takenForAbsent_surveyed, Survey.facts?, hvolume]
  by_cases hword : ∀ c ∈ desired.volumeName.toList, isWord c = true
  · have hnone : ¬ ∃ c ∈ desired.volumeName.toList, isWord c = false := by simpa using hword
    rw [if_pos (hlegible.mpr hword)]
    exact iff_of_false (carryOut_some_not_taken _ _) fun h => hnone h.1
  · have hsome : ∃ c ∈ desired.volumeName.toList, isWord c = false := by simpa using hword
    rw [if_neg (mt hlegible.mp hword), carryOut_none_taken, and_iff_right hsome]

def dashedVolume : DesiredState :=
  { DesiredState.ofNames "datavg" "data-lv" with size := some "512M" }

theorem dashed_volume_made_again : TakenForAbsent {} dashedVolume
    ((reconcile {} dashedVolume).play (sampleScript "data-lv" "datavg").runner) :=
  (taken_for_absent_iff (sampleSurvey "data-lv" "datavg") _ {} dashedVolume
    (sampleSurvey_holds (by decide +kernel) (by decide +kernel) rfl) rfl
    (List.all_eq_true.mp (by decide +kernel))).mpr
    ⟨⟨'-', by decide +kernel, by decide +kernel⟩,
      .inr ⟨⟨512, "jfs2", 1, .maximum, "", []⟩, "/usr/sbin/mklv", rfl, rfl⟩⟩

theorem existing_volume_not_always_recognised : ¬ ∀ (survey : Survey) (runner : Runner)
    (settings : RunSettings) (desired : DesiredState), survey.Holds runner settings desired →
      survey.volume = desired.volumeName.toList → (∀ c ∈ survey.owner, isWord c = true) →
      ¬ TakenForAbsent settings desired ((reconcile settings desired).play runner) := by
  intro h
  have hholds : (sampleSurvey "data-lv" "datavg").Holds (sampleScript "data-lv" "datavg").runner {}
      dashedVolume := sampleSurvey_holds (by decide +kernel) (by decide +kernel) rfl
  have hnone : (sampleSurvey "data-lv" "datavg").facts? = none := if_neg (by decide +kernel)
  refine h _ _ _ _ hholds rfl (List.all_eq_true.mp (by decide +kernel)) ?_
  rw [hholds.reconcile, takenForAbsent_surveyed, hnone, carryOut_none_taken]
  exact .inr ⟨⟨512, "jfs2", 1, .maximum, "", []⟩, "/usr/sbin/mklv", rfl, rfl⟩

end LogicalVolumes
