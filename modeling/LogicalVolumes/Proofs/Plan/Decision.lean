import LogicalVolumes.Plan
import Mathlib.Tactic.Lemma

/-! The situations of a plan, each with what is planned in it. -/

namespace LogicalVolumes

variable (desired : DesiredState) (group : GroupFacts) (volume : VolumeFacts)

inductive CreationPlan : Except Fault Action → Prop
  | unsized : desired.size = none → CreationPlan (.error (.sizeMissing desired.volumeName))
  | badSize {text fault} : desired.size = some text → targetSize text group.unitSize = .error fault →
      CreationPlan (.error fault)
  | noSpace {text size} : desired.size = some text → targetSize text group.unitSize = .ok size →
      group.freeCapacity < size →
      CreationPlan (.error (.insufficientSpace group.name size group.freeCapacity))
  | create {text layout} : desired.size = some text → targetSize text group.unitSize = .ok layout.size →
      ¬ group.freeCapacity < layout.size → layout.volumeType = desired.volumeType →
      layout.copies = desired.copies → layout.policy = desired.policy →
      layout.options = desired.extraOptions → layout.physicalVolumes = desired.physicalVolumes →
      CreationPlan (.ok (.change (.create layout)))

inductive UpdatePlan : Except Fault Action → Prop
  | setPolicy : volume.policy ≠ desired.policy → UpdatePlan (.ok (.change (.setPolicy desired.policy)))
  | otherGroup : volume.policy = desired.policy → volume.groupName ≠ desired.groupName →
      UpdatePlan (.error (.otherGroup desired.volumeName volume.groupName))
  | unsized : volume.policy = desired.policy → volume.groupName = desired.groupName →
      desired.size = none → UpdatePlan (.ok (.keep .alreadyExists))
  | badSize {text fault} : volume.policy = desired.policy → volume.groupName = desired.groupName →
      desired.size = some text → targetSize text group.unitSize = .error fault → UpdatePlan (.error fault)
  | grow {text target} : volume.policy = desired.policy → volume.groupName = desired.groupName →
      desired.size = some text → targetSize text group.unitSize = .ok target → volume.size < target →
      UpdatePlan (.ok (.change (.resize (target - volume.size) target)))
  | shrink {text target} : volume.policy = desired.policy → volume.groupName = desired.groupName →
      desired.size = some text → targetSize text group.unitSize = .ok target → target < volume.size →
      UpdatePlan (.error (.shrinkRefused desired.volumeName volume.size target))
  | fits {text} : volume.policy = desired.policy → volume.groupName = desired.groupName →
      desired.size = some text → targetSize text group.unitSize = .ok volume.size →
      UpdatePlan (.ok (.keep (.sizeMatches volume.size)))

inductive Planned : Option VolumeFacts → Except Fault Action → Prop
  | stayAbsent : desired.presence = .absent → Planned none (.ok (.keep .alreadyAbsent))
  | delete (volume : VolumeFacts) : desired.presence = .absent → Planned (some volume) (.ok (.change .delete))
  | create {result} : desired.presence = .present → CreationPlan desired group result → Planned none result
  | update {volume result} : desired.presence = .present → UpdatePlan desired group volume result →
      Planned (some volume) result

lemma planCreation_spec : CreationPlan desired group (planCreation desired group) := by
  unfold planCreation
  cases htext : desired.size with
  | none => exact .unsized htext
  | some text =>
    cases hsize : targetSize text group.unitSize with
    | error fault => simpa only [hsize] using .badSize htext hsize
    | ok size =>
      by_cases hfree : group.freeCapacity < size
      · simpa only [hsize, if_pos hfree] using .noSpace htext hsize hfree
      · simpa only [hsize, if_neg hfree] using .create htext hsize hfree rfl rfl rfl rfl rfl

lemma planUpdate_spec : UpdatePlan desired group volume (planUpdate desired group volume) := by
  unfold planUpdate
  by_cases hpolicy : volume.policy = desired.policy
  · rw [if_neg (not_not_intro hpolicy)]
    by_cases hgroup : volume.groupName = desired.groupName
    · rw [if_neg (not_not_intro hgroup)]
      cases htext : desired.size with
      | none => exact .unsized hpolicy hgroup htext
      | some text =>
        cases hsize : targetSize text group.unitSize with
        | error fault => simpa only [hsize] using .badSize hpolicy hgroup htext hsize
        | ok target =>
          by_cases hgrow : volume.size < target
          · simpa only [hsize, if_pos hgrow] using .grow hpolicy hgroup htext hsize hgrow
          · by_cases hshrink : target < volume.size
            · simpa only [hsize, if_neg hgrow, if_pos hshrink] using
                .shrink hpolicy hgroup htext hsize hshrink
            · obtain rfl : volume.size = target :=
                UInt64.le_antisymm (UInt64.not_lt.mp hshrink) (UInt64.not_lt.mp hgrow)
              simpa only [hsize, if_neg hgrow] using .fits hpolicy hgroup htext hsize
    · rw [if_pos hgroup]
      exact .otherGroup hpolicy hgroup
  · rw [if_pos hpolicy]
    exact .setPolicy hpolicy

variable {desired group volume}

lemma plan_spec {observed : Option VolumeFacts} {result : Except Fault Action}
    (h : plan desired group observed = result) : Planned desired group observed result := by
  subst h
  cases observed with
  | none =>
    cases hp : desired.presence with
    | absent => simpa only [plan, hp] using .stayAbsent hp
    | present => simpa only [plan, hp] using .create hp (planCreation_spec desired group)
  | some volume =>
    cases hp : desired.presence with
    | absent => simpa only [plan, hp] using .delete volume hp
    | present => simpa only [plan, hp] using .update hp (planUpdate_spec desired group volume)

lemma UpdatePlan.eq {result : Except Fault Action} (h : UpdatePlan desired group volume result) :
    planUpdate desired group volume = result := by
  cases h with
  | setPolicy hpolicy => simp [planUpdate, hpolicy]
  | otherGroup hpolicy hgroup => simp [planUpdate, hpolicy, hgroup]
  | unsized hpolicy hgroup htext => simp [planUpdate, hpolicy, hgroup, htext]
  | badSize hpolicy hgroup htext hsize => simp [planUpdate, hpolicy, hgroup, htext, hsize]
  | grow hpolicy hgroup htext hsize hgrow => simp [planUpdate, hpolicy, hgroup, htext, hsize, hgrow]
  | shrink hpolicy hgroup htext hsize hshrink =>
    simp [planUpdate, hpolicy, hgroup, htext, hsize, hshrink, UInt64.not_lt.mpr (UInt64.le_of_lt hshrink)]
  | fits hpolicy hgroup htext hsize => simp [planUpdate, hpolicy, hgroup, htext, hsize]

lemma plan_some_congr {group' : GroupFacts} (h : group'.unitSize = group.unitSize) :
    plan desired group' (some volume) = plan desired group (some volume) := by
  simp only [plan, planUpdate, h]

end LogicalVolumes
