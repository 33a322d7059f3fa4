import LogicalVolumes.Proofs.Capacity.Alignment
import LogicalVolumes.Proofs.Plan.Decision

/-! When each outcome is planned. Several reasons can hold at once, and it is settled which of them counts. -/

namespace LogicalVolumes

/-- The volume should be there and is not. -/
def IsMissing (desired : DesiredState) (observed : Option VolumeFacts) : Prop :=
  desired.presence = .present ∧ observed = none

/-- The volume is there as it should be, its size aside. -/
def IsInPlace (desired : DesiredState) (observed : Option VolumeFacts) (volume : VolumeFacts) : Prop :=
  desired.presence = .present ∧ observed = some volume ∧ volume.policy = desired.policy ∧
    volume.groupName = desired.groupName

def AsksFor (desired : DesiredState) (group : GroupFacts) (result : Except Fault Megabytes) : Prop :=
  ∃ text, desired.size = some text ∧ targetSize text group.unitSize = result

def Fault.RefusesSize (fault : Fault) : Prop := ∃ size, fault = .invalidSize size ∨ fault = .unknownUnit size

/-- Each outcome with the condition under which it is planned, whatever else holds of the state and the
facts. -/
structure PlansInOrder (desired : DesiredState) (group : GroupFacts) (observed : Option VolumeFacts) :
    Prop where
  already_absent : plan desired group observed = .ok (.keep .alreadyAbsent) ↔
    desired.presence = .absent ∧ observed = none
  delete : plan desired group observed = .ok (.change .delete) ↔
    desired.presence = .absent ∧ ∃ volume, observed = some volume
  absent_accepted : desired.presence = .absent → ∀ fault, plan desired group observed ≠ .error fault
  size_missing : ∀ name, plan desired group observed = .error (.sizeMissing name) ↔
    IsMissing desired observed ∧ desired.size = none ∧ name = desired.volumeName
  size_refused : ∀ fault : Fault, fault.RefusesSize → (plan desired group observed = .error fault ↔
    (IsMissing desired observed ∨ ∃ volume, IsInPlace desired observed volume) ∧
      AsksFor desired group (.error fault))
  insufficient_space : ∀ name requested free,
    plan desired group observed = .error (.insufficientSpace name requested free) ↔
      IsMissing desired observed ∧ AsksFor desired group (.ok requested) ∧ group.freeCapacity < requested ∧
        name = group.name ∧ free = group.freeCapacity
  create : ∀ layout, plan desired group observed = .ok (.change (.create layout)) ↔
    IsMissing desired observed ∧ AsksFor desired group (.ok layout.size) ∧
      layout.size ≤ group.freeCapacity ∧ layout.volumeType = desired.volumeType ∧
      layout.copies = desired.copies ∧ layout.policy = desired.policy ∧
      layout.options = desired.extraOptions ∧ layout.physicalVolumes = desired.physicalVolumes
  set_policy : ∀ policy, plan desired group observed = .ok (.change (.setPolicy policy)) ↔
    desired.presence = .present ∧ policy = desired.policy ∧
      ∃ volume, observed = some volume ∧ volume.policy ≠ desired.policy
  other_group : ∀ name owner, plan desired group observed = .error (.otherGroup name owner) ↔
    desired.presence = .present ∧ name = desired.volumeName ∧ owner ≠ desired.groupName ∧
      ∃ volume, observed = some volume ∧ volume.policy = desired.policy ∧ volume.groupName = owner
  already_exists : plan desired group observed = .ok (.keep .alreadyExists) ↔
    (∃ volume, IsInPlace desired observed volume) ∧ desired.size = none
  resize : ∀ delta target, plan desired group observed = .ok (.change (.resize delta target)) ↔
    AsksFor desired group (.ok target) ∧ ∃ volume, IsInPlace desired observed volume ∧
      volume.size < target ∧ delta = target - volume.size
  shrink_refused : ∀ name current requested,
    plan desired group observed = .error (.shrinkRefused name current requested) ↔
      name = desired.volumeName ∧ AsksFor desired group (.ok requested) ∧ requested < current ∧
        ∃ volume, IsInPlace desired observed volume ∧ volume.size = current
  size_matches : ∀ size, plan desired group observed = .ok (.keep (.sizeMatches size)) ↔
    AsksFor desired group (.ok size) ∧ ∃ volume, IsInPlace desired observed volume ∧ volume.size = size
  no_other_fault : ∀ fault : Fault, plan desired group observed = .error fault → fault.RefusesSize ∨
    (∃ name, fault = .sizeMissing name) ∨ (∃ name owner, fault = .otherGroup name owner) ∨
    (∃ name requested free, fault = .insufficientSpace name requested free) ∨
    ∃ name current requested, fault = .shrinkRefused name current requested

variable {desired : DesiredState} {group : GroupFacts} {volume : VolumeFacts}
  {observed : Option VolumeFacts} {result : Except Fault Action} {fault : Fault}

lemma CreationPlan.eq (h : CreationPlan desired group result) : planCreation desired group = result := by
  cases h with
  | unsized htext => simp [planCreation, htext]
  | badSize htext hsize => simp [planCreation, htext, hsize]
  | noSpace htext hsize hfree => simp [planCreation, htext, hsize, hfree]
  | @create _ layout htext hsize hfree htype hcopies hpolicy hoptions hvolumes =>
    simp [planCreation, htext, hsize, hfree, ← htype, ← hcopies, ← hpolicy, ← hoptions, ← hvolumes]

lemma plan_eq_iff : plan desired group observed = result ↔ Planned desired group observed result := by
  constructor
  · exact plan_spec
  · intro h
    cases h with
    | stayAbsent hp => simp [plan, hp]
    | delete volume hp => simp [plan, hp]
    | create hp hc => simpa [plan, hp] using hc.eq
    | update hp hu => simpa [plan, hp] using hu.eq

section Absent

lemma plan_eq_alreadyAbsent : plan desired group observed = .ok (.keep .alreadyAbsent) ↔
    desired.presence = .absent ∧ observed = none := by
  rw [plan_eq_iff]
  constructor
  · intro h
    cases h with
    | stayAbsent hp => exact ⟨hp, rfl⟩
    | create _ hc => cases hc
    | update _ hu => cases hu
  · rintro ⟨hp, rfl⟩
    exact .stayAbsent hp

lemma plan_eq_delete : plan desired group observed = .ok (.change .delete) ↔
    desired.presence = .absent ∧ ∃ volume, observed = some volume := by
  rw [plan_eq_iff]
  constructor
  · intro h
    cases h with
    | delete volume hp => exact ⟨hp, volume, rfl⟩
    | create _ hc => cases hc
    | update _ hu => cases hu
  · rintro ⟨hp, volume, rfl⟩
    exact .delete volume hp

lemma present_of_error (h : plan desired group observed = .error fault) : desired.presence = .present := by
  cases plan_spec h with
  | create hp _ => exact hp
  | update hp _ => exact hp

end Absent

section Missing

lemma plan_eq_sizeMissing {name : String} : plan desired group observed = .error (.sizeMissing name) ↔
    IsMissing desired observed ∧ desired.size = none ∧ name = desired.volumeName := by
  rw [plan_eq_iff]
  constructor
  · intro h
    cases h with
    | create hp hc =>
      cases hc with
      | unsized htext => exact ⟨⟨hp, rfl⟩, htext, rfl⟩
      | badSize _ hsize => exact absurd (targetSize_error hsize) (by simp)
    | update _ hu =>
      cases hu with
      | badSize _ _ _ hsize => exact absurd (targetSize_error hsize) (by simp)
  · rintro ⟨⟨hp, rfl⟩, htext, rfl⟩
    exact .create hp (.unsized htext)

lemma plan_eq_insufficientSpace {name : String} {requested free : Megabytes} :
    plan desired group observed = .error (.insufficientSpace name requested free) ↔
      IsMissing desired observed ∧ AsksFor desired group (.ok requested) ∧ group.freeCapacity < requested ∧
        name = group.name ∧ free = group.freeCapacity := by
  rw [plan_eq_iff]
  constructor
  · intro h
    cases h with
    | create hp hc =>
      cases hc with
      | badSize _ hsize => exact absurd (targetSize_error hsize) (by simp)
      | noSpace htext hsize hfree => exact ⟨⟨hp, rfl⟩, ⟨_, htext, hsize⟩, hfree, rfl, rfl⟩
    | update _ hu =>
      cases hu with
      | badSize _ _ _ hsize => exact absurd (targetSize_error hsize) (by simp)
  · rintro ⟨⟨hp, rfl⟩, ⟨text, htext, hsize⟩, hfree, rfl, rfl⟩
    exact .create hp (.noSpace htext hsize hfree)

lemma plan_eq_create {layout : VolumeLayout} :
    plan desired group observed = .ok (.change (.create layout)) ↔
      IsMissing desired observed ∧ AsksFor desired group (.ok layout.size) ∧
        layout.size ≤ group.freeCapacity ∧ layout.volumeType = desired.volumeType ∧
        layout.copies = desired.copies ∧ layout.policy = desired.policy ∧
        layout.options = desired.extraOptions ∧ layout.physicalVolumes = desired.physicalVolumes := by
  rw [plan_eq_iff]
  constructor
  · intro h
    cases h with
    | create hp hc =>
      cases hc with
      | create htext hsize hfree htype hcopies hpolicy hoptions hvolumes =>
        exact ⟨⟨hp, rfl⟩, ⟨_, htext, hsize⟩, UInt64.not_lt.mp hfree, htype, hcopies, hpolicy, hoptions,
          hvolumes⟩
    | update _ hu => cases hu
  · rintro ⟨⟨hp, rfl⟩, ⟨text, htext, hsize⟩, hfree, htype, hcopies, hpolicy, hoptions, hvolumes⟩
    exact .create hp (.create htext hsize (UInt64.not_lt.mpr hfree) htype hcopies hpolicy hoptions hvolumes)

end Missing

section Present

lemma plan_eq_setPolicy {policy : PlacementPolicy} :
    plan desired group observed = .ok (.change (.setPolicy policy)) ↔
      desired.presence = .present ∧ policy = desired.policy ∧
        ∃ volume, observed = some volume ∧ volume.policy ≠ desired.policy := by
  rw [plan_eq_iff]
  constructor
  · intro h
    cases h with
    | create _ hc => cases hc
    | update hp hu =>
      cases hu with
      | setPolicy hpolicy => exact ⟨hp, rfl, _, rfl, hpolicy⟩
  · rintro ⟨hp, rfl, volume, rfl, hpolicy⟩
    exact .update hp (.setPolicy hpolicy)

lemma plan_eq_otherGroup {name owner : String} :
    plan desired group observed = .error (.otherGroup name owner) ↔
      desired.presence = .present ∧ name = desired.volumeName ∧ owner ≠ desired.groupName ∧
        ∃ volume, observed = some volume ∧ volume.policy = desired.policy ∧ volume.groupName = owner := by
  rw [plan_eq_iff]
  constructor
  · intro h
    cases h with
    | create _ hc =>
      cases hc with
      | badSize _ hsize => exact absurd (targetSize_error hsize) (by simp)
    | update hp hu =>
      cases hu with
      | otherGroup hpolicy hgroup => exact ⟨hp, rfl, hgroup, _, rfl, hpolicy, rfl⟩
      | badSize _ _ _ hsize => exact absurd (targetSize_error hsize) (by simp)
  · rintro ⟨hp, rfl, hgroup, volume, rfl, hpolicy, rfl⟩
    exact .update hp (.otherGroup hpolicy hgroup)

lemma plan_eq_alreadyExists : plan desired group observed = .ok (.keep .alreadyExists) ↔
    (∃ volume, IsInPlace desired observed volume) ∧ desired.size = none := by
  rw [plan_eq_iff]
  constructor
  · intro h
    cases h with
    | create _ hc => cases hc
    | update hp hu =>
      cases hu with
      | unsized hpolicy hgroup htext => exact ⟨⟨_, hp, rfl, hpolicy, hgroup⟩, htext⟩
  · rintro ⟨⟨volume, hp, rfl, hpolicy, hgroup⟩, htext⟩
    exact .update hp (.unsized hpolicy hgroup htext)

lemma plan_eq_resize {delta target : Megabytes} :
    plan desired group observed = .ok (.change (.resize delta target)) ↔
      AsksFor desired group (.ok target) ∧ ∃ volume, IsInPlace desired observed volume ∧
        volume.size < target ∧ delta = target - volume.size := by
  rw [plan_eq_iff]
  constructor
  · intro h
    cases h with
    | create _ hc => cases hc
    | update hp hu =>
      cases hu with
      | grow hpolicy hgroup htext hsize hgrow =>
        exact ⟨⟨_, htext, hsize⟩, _, ⟨hp, rfl, hpolicy, hgroup⟩, hgrow, rfl⟩
  · rintro ⟨⟨text, htext, hsize⟩, volume, ⟨hp, rfl, hpolicy, hgroup⟩, hgrow, rfl⟩
    exact .update hp (.grow hpolicy hgroup htext hsize hgrow)

lemma plan_eq_shrinkRefused {name : String} {current requested : Megabytes} :
    plan desired group observed = .error (.shrinkRefused name current requested) ↔
      name = desired.volumeName ∧ AsksFor desired group (.ok requested) ∧ requested < current ∧
        ∃ volume, IsInPlace desired observed volume ∧ volume.size = current := by
  rw [plan_eq_iff]
  constructor
  · intro h
    cases h with
    | create _ hc =>
      cases hc with
      | badSize _ hsize => exact absurd (targetSize_error hsize) (by simp)
    | update hp hu =>
      cases hu with
      | badSize _ _ _ hsize => exact absurd (targetSize_error hsize) (by simp)
      | shrink hpolicy hgroup htext hsize hshrink =>
        exact ⟨rfl, ⟨_, htext, hsize⟩, hshrink, _, ⟨hp, rfl, hpolicy, hgroup⟩, rfl⟩
  · rintro ⟨rfl, ⟨text, htext, hsize⟩, hshrink, volume, ⟨hp, rfl, hpolicy, hgroup⟩, rfl⟩
    exact .update hp (.shrink hpolicy hgroup htext hsize hshrink)

lemma plan_eq_sizeMatches {size : Megabytes} :
    plan desired group observed = .ok (.keep (.sizeMatches size)) ↔
      AsksFor desired group (.ok size) ∧
        ∃ volume, IsInPlace desired observed volume ∧ volume.size = size := by
  rw [plan_eq_iff]
  constructor
  · intro h
    cases h with
    | create _ hc => cases hc
    | update hp hu =>
      cases hu with
      | fits hpolicy hgroup htext hsize => exact ⟨⟨_, htext, hsize⟩, _, ⟨hp, rfl, hpolicy, hgroup⟩, rfl⟩
  · rintro ⟨⟨text, htext, hsize⟩, volume, ⟨hp, rfl, hpolicy, hgroup⟩, rfl⟩
    exact .update hp (.fits hpolicy hgroup htext hsize)

end Present

lemma plan_eq_sizeFault (hfault : fault.RefusesSize) : plan desired group observed = .error fault ↔
    (IsMissing desired observed ∨ ∃ volume, IsInPlace desired observed volume) ∧
      AsksFor desired group (.error fault) := by
  rw [plan_eq_iff]
  constructor
  · intro h
    -- no other reason to refuse words its fault as one about the size
    cases h with
    | create hp hc =>
      cases hc with
      | unsized _ => exact absurd hfault (by simp [Fault.RefusesSize])
      | badSize htext hsize => exact ⟨.inl ⟨hp, rfl⟩, _, htext, hsize⟩
      | noSpace _ _ _ => exact absurd hfault (by simp [Fault.RefusesSize])
    | update hp hu =>
      cases hu with
      | otherGroup _ _ => exact absurd hfault (by simp [Fault.RefusesSize])
      | badSize hpolicy hgroup htext hsize => exact ⟨.inr ⟨_, hp, rfl, hpolicy, hgroup⟩, _, htext, hsize⟩
      | shrink _ _ _ _ _ => exact absurd hfault (by simp [Fault.RefusesSize])
  · rintro ⟨⟨hp, rfl⟩ | ⟨volume, hp, rfl, hpolicy, hgroup⟩, text, htext, hsize⟩
    · exact .create hp (.badSize htext hsize)
    · exact .update hp (.badSize hpolicy hgroup htext hsize)

lemma fault_of_plan (h : plan desired group observed = .error fault) : fault.RefusesSize ∨
    (∃ name, fault = .sizeMissing name) ∨ (∃ name owner, fault = .otherGroup name owner) ∨
    (∃ name requested free, fault = .insufficientSpace name requested free) ∨
    ∃ name current requested, fault = .shrinkRefused name current requested := by
  cases plan_spec h with
  | create _ hc =>
    cases hc with
    | unsized _ => exact .inr (.inl ⟨_, rfl⟩)
    | badSize _ hsize => exact .inl (targetSize_error hsize)
    | noSpace _ _ _ => exact .inr (.inr (.inr (.inl ⟨_, _, _, rfl⟩)))
  | update _ hu =>
    cases hu with
    | otherGroup _ _ => exact .inr (.inr (.inl ⟨_, _, rfl⟩))
    | badSize _ _ _ hsize => exact .inl (targetSize_error hsize)
    | shrink _ _ _ _ _ => exact .inr (.inr (.inr (.inr ⟨_, _, _, rfl⟩)))

/-- Policy goes before group, group before size, and the wording of a size before what it asks for. -/
theorem plan_in_order (desired : DesiredState) (group : GroupFacts) (observed : Option VolumeFacts) :
    PlansInOrder desired group observed where
  already_absent := plan_eq_alreadyAbsent
  delete := plan_eq_delete
  absent_accepted habsent _ h := by simp [present_of_error h] at habsent
  size_missing _ := plan_eq_sizeMissing
  size_refused _ := plan_eq_sizeFault
  insufficient_space _ _ _ := plan_eq_insufficientSpace
  create _ := plan_eq_create
  set_policy _ := plan_eq_setPolicy
  other_group _ _ := plan_eq_otherGroup
  already_exists := plan_eq_alreadyExists
  resize _ _ := plan_eq_resize
  shrink_refused _ _ _ := plan_eq_shrinkRefused
  size_matches _ := plan_eq_sizeMatches
  no_other_fault _ := fault_of_plan

/-- A volume of another policy and in another group, asked for in a size that is no size: policy counts. -/
example : plan { DesiredState.ofNames "datavg" "lv01" with size := some "512K" } ⟨"datavg", 100, 50, 4⟩
    (some ⟨"lv01", "rootvg", 512, .minimum⟩) = .ok (.change (.setPolicy .maximum)) := by
  rfl

end LogicalVolumes
