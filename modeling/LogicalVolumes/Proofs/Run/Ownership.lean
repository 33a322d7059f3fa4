import LogicalVolumes.Proofs.Capacity.Alignment
import LogicalVolumes.Proofs.Run.Reading

/-! When a run is refused because the volume belongs to another group. -/

namespace LogicalVolumes

open Dialogue Text

def RefusedForGroup (run : Transcript (Except Fault RunOutcome)) : Prop :=
  ∃ volume group, run.result = .error (.otherGroup volume group)

section

variable {settings : RunSettings} {desired : DesiredState} {group : GroupFacts}
  {observed : Option VolumeFacts} {runner : Runner} {past : List Exchange} {name owner : String}

lemma targetSize_not_otherGroup {text : String} {unit : Megabytes} :
    targetSize text unit ≠ .error (.otherGroup name owner) := by
  intro h
  obtain ⟨size, h | h⟩ := targetSize_error h <;> cases h

lemma plan_otherGroup : plan desired group observed = .error (.otherGroup name owner) ↔
    ∃ volume, observed = some volume ∧ desired.presence = .present ∧ volume.policy = desired.policy ∧
      volume.groupName ≠ desired.groupName ∧ name = desired.volumeName ∧ owner = volume.groupName := by
  constructor
  · intro h
    cases plan_spec h with
    | create _ hcreate =>
      cases hcreate with | badSize _ hsize => exact absurd hsize targetSize_not_otherGroup
    | @update volume _ hp hupdate =>
      cases hupdate with
      | otherGroup hpolicy hgroup => exact ⟨volume, rfl, hp, hpolicy, hgroup, rfl, rfl⟩
      | badSize _ _ _ hsize => exact absurd hsize targetSize_not_otherGroup
  · rintro ⟨volume, rfl, hp, hpolicy, hgroup, rfl, rfl⟩
    simpa only [plan, hp] using (UpdatePlan.otherGroup hpolicy hgroup).eq

lemma makeChange_not_otherGroup (change : Change) :
    ((makeChange settings desired change).playAfter runner past).result ≠
      .error (.otherGroup name owner) := by
  rcases makeChange_result settings desired runner past change with h | ⟨fault, h, hne⟩
  · simp [h]
  · simpa [h] using hne name owner

lemma carryOut_otherGroup :
    ((carryOut settings desired group observed).playAfter runner past).result =
        .error (.otherGroup name owner) ↔
      plan desired group observed = .error (.otherGroup name owner) := by
  cases hplan : plan desired group observed with
  | error fault => simp [carryOut, hplan, fail, playAfter]
  | ok action =>
    cases action with
    | keep reason => simp [carryOut, hplan, playAfter]
    | change change => simp [carryOut, hplan, makeChange_not_otherGroup]

end

def Survey.keptOwner (survey : Survey) : String := String.ofList (survey.owner.takeWhile isWord)

structure OwnerChecked (survey : Survey) (desired : DesiredState)
    (run : Transcript (Except Fault RunOutcome)) : Prop where
  refused_iff : RefusedForGroup run ↔ survey.keptOwner ≠ "" ∧ survey.keptOwner ≠ desired.groupName
  refused : RefusedForGroup run → run.result = .error (.otherGroup desired.volumeName survey.keptOwner) ∧
    commands run.exchanges = [.reportGroup survey.lsvg desired.groupName,
      .reportVolume survey.lslv desired.volumeName]
  exact_iff : (RefusedForGroup run ↔ String.ofList survey.owner ≠ desired.groupName) ↔
    (∀ c ∈ survey.owner, isWord c = true) ∨
    (if survey.keptOwner = "" then String.ofList survey.owner = desired.groupName
      else survey.keptOwner ≠ desired.groupName ∧ String.ofList survey.owner ≠ desired.groupName)

section

variable {survey : Survey} {settings : RunSettings} {desired : DesiredState} {runner : Runner}

lemma Survey.keptOwner_ne_empty : survey.keptOwner ≠ "" ↔ survey.owner.takeWhile isWord ≠ [] := by
  simp [Survey.keptOwner, ← String.toList_inj]

lemma Survey.keptOwner_eq_iff :
    survey.keptOwner = String.ofList survey.owner ↔ ∀ c ∈ survey.owner, isWord c = true := by
  rw [Survey.keptOwner, String.ofList_inj]
  constructor
  · intro h c hc
    rw [← h] at hc
    exact List.all_eq_true.mp List.all_takeWhile c hc
  · intro h
    simpa using takeWhile_append (t := []) h (by simp)

lemma Survey.Holds.owner_read (h : survey.Holds runner settings desired)
    (hpresent : desired.presence = .present) (hname : ∀ c ∈ survey.volume, isWord c = true)
    (hpolicy : survey.policy = desired.policy) {name owner : String} :
    ((LogicalVolumes.reconcile settings desired).play runner).result = .error (.otherGroup name owner) ↔
      survey.keptOwner ≠ "" ∧ survey.keptOwner ≠ desired.groupName ∧ name = desired.volumeName ∧
        owner = survey.keptOwner := by
  rw [h.reconcile, carryOut_otherGroup, plan_otherGroup, Survey.keptOwner_ne_empty]
  constructor
  · rintro ⟨volume, hfacts, _, _, hgroup, hvolume, howner⟩
    by_cases hlegible : IsLegible survey.volume survey.owner
    · rw [Survey.facts?, if_pos hlegible] at hfacts
      cases hfacts
      exact ⟨hlegible.2, hgroup, hvolume, howner⟩
    · simp [Survey.facts?, if_neg hlegible] at hfacts
  · rintro ⟨hkept, hgroup, hvolume, howner⟩
    exact ⟨_, if_pos ⟨hname, hkept⟩, hpresent, hpolicy, hgroup, hvolume, howner⟩

lemma commands_of_otherGroup {group : GroupFacts} {observed : Option VolumeFacts} {past : List Exchange}
    {name owner : String}
    (h : ((carryOut settings desired group observed).playAfter runner past).result =
      .error (.otherGroup name owner)) :
    commands ((carryOut settings desired group observed).playAfter runner past).exchanges = [] := by
  rw [carryOut, carryOut_otherGroup.mp h]
  rfl

lemma Survey.Holds.refused_iff (h : survey.Holds runner settings desired)
    (hpresent : desired.presence = .present) (hname : ∀ c ∈ survey.volume, isWord c = true)
    (hpolicy : survey.policy = desired.policy) :
    RefusedForGroup ((LogicalVolumes.reconcile settings desired).play runner) ↔
      survey.keptOwner ≠ "" ∧ survey.keptOwner ≠ desired.groupName := by
  constructor
  · rintro ⟨name, owner, hresult⟩
    obtain ⟨hne, hother, _⟩ := (h.owner_read hpresent hname hpolicy).mp hresult
    exact ⟨hne, hother⟩
  · rintro ⟨hne, hother⟩
    exact ⟨_, _, (h.owner_read hpresent hname hpolicy).mpr ⟨hne, hother, rfl, rfl⟩⟩

lemma Survey.kept_exact_iff (howner : survey.owner ≠ []) (name : String) :
    ((survey.keptOwner ≠ "" ∧ survey.keptOwner ≠ name) ↔ String.ofList survey.owner ≠ name) ↔
      (∀ c ∈ survey.owner, isWord c = true) ∨
      (if survey.keptOwner = "" then String.ofList survey.owner = name
        else survey.keptOwner ≠ name ∧ String.ofList survey.owner ≠ name) := by
  rw [← Survey.keptOwner_eq_iff]
  have hne : String.ofList survey.owner ≠ "" := by simpa [← String.toList_inj] using howner
  by_cases hempty : survey.keptOwner = ""
  · simp [hempty, hne.symm]
  · by_cases hgroup : String.ofList survey.owner = name
    · simp [hempty, hgroup]
    · simp only [hempty, hgroup, if_false, ne_eq, not_false_eq_true, true_and, and_true, iff_true]
      constructor
      · exact fun h => .inr h
      · rintro (heq | hother)
        · rwa [heq]
        · exact hother

end

/-- With both reports complete, a run is refused for the group of the volume exactly if the word kept
of the group's name is another one than the desired name. That is the right answer for all names that
are one word. -/
theorem other_group_refused_iff (survey : Survey) (runner : Runner) (settings : RunSettings)
    (desired : DesiredState) (h : survey.Holds runner settings desired)
    (hpresent : desired.presence = .present) (hname : ∀ c ∈ survey.volume, isWord c = true)
    (hpolicy : survey.policy = desired.policy) :
    OwnerChecked survey desired ((reconcile settings desired).play runner) where
  refused_iff := h.refused_iff hpresent hname hpolicy
  refused := by
    rintro ⟨name, owner, hresult⟩
    obtain ⟨_, _, rfl, rfl⟩ := (h.owner_read hpresent hname hpolicy).mp hresult
    refine ⟨hresult, ?_⟩
    rw [h.reconcile] at hresult ⊢
    rw [Survey.commands_exchanges, commands_of_otherGroup hresult]
  exact_iff := by
    obtain ⟨_, _, _, hsolid, _⟩ := h.volume_complete.has_names
    rw [h.refused_iff hpresent hname hpolicy]
    exact Survey.kept_exact_iff hsolid.1 desired.groupName

def growingVolume : DesiredState :=
  { DesiredState.ofNames "datavg" "testlv" with size := some "1G" }

theorem dashed_group_refused_by_its_word :
    ((reconcile {} growingVolume).play (sampleScript "testlv" "data-vg").runner).result =
      .error (.otherGroup "testlv" "data") ∧
    commands ((reconcile {} growingVolume).play (sampleScript "testlv" "data-vg").runner).exchanges =
      [.reportGroup "/usr/sbin/lsvg" "datavg", .reportVolume "/usr/sbin/lslv" "testlv"] := by
  have hchecked := other_group_refused_iff (sampleSurvey "testlv" "data-vg")
    (sampleScript "testlv" "data-vg").runner {} growingVolume
    (sampleSurvey_holds (by decide +kernel) (by decide +kernel) rfl) rfl
    (List.all_eq_true.mp (by decide +kernel)) rfl
  have hkept : (sampleSurvey "testlv" "data-vg").keptOwner = "data" := by decide +kernel
  obtain ⟨hresult, hcommands⟩ := hchecked.refused (hchecked.refused_iff.mpr (by rw [hkept]; decide))
  rw [hkept] at hresult
  exact ⟨hresult, hcommands⟩

theorem other_group_not_always_refused : ¬ ∀ (survey : Survey) (runner : Runner) (settings : RunSettings)
    (desired : DesiredState), survey.Holds runner settings desired → desired.presence = .present →
      (∀ c ∈ survey.volume, isWord c = true) → survey.policy = desired.policy →
      (RefusedForGroup ((reconcile settings desired).play runner) ↔
        String.ofList survey.owner ≠ desired.groupName) := by
  intro h
  have hholds : (sampleSurvey "testlv" "datavg-old").Holds (sampleScript "testlv" "datavg-old").runner {}
      growingVolume := sampleSurvey_holds (by decide +kernel) (by decide +kernel) rfl
  have hname : ∀ c ∈ (sampleSurvey "testlv" "datavg-old").volume, isWord c = true :=
    List.all_eq_true.mp (by decide +kernel)
  obtain ⟨name, owner, hresult⟩ := (h _ _ _ _ hholds rfl hname rfl).mpr (by decide +kernel)
  obtain ⟨_, hother, _⟩ := (hholds.owner_read rfl hname rfl).mp hresult
  exact hother (by decide +kernel)

end LogicalVolumes
