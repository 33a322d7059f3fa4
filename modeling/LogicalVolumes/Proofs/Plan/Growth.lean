import LogicalVolumes.Proofs.Capacity.Ceiling
import LogicalVolumes.Proofs.Plan.Precedence

/-! What is planned for the size of a volume, in terms of the megabytes that are asked for, before they are
aligned. -/

namespace LogicalVolumes

open Number

def Requests (desired : DesiredState) (text : String) (requested : Megabytes) : Prop :=
  desired.size = some text ∧ convertSize text = .ok requested

def PlansGrowth (desired : DesiredState) (group : GroupFacts) (volume : VolumeFacts) : Prop :=
  ∃ delta target, plan desired group (some volume) = .ok (.change (.resize delta target))

def RefusesShrink (desired : DesiredState) (group : GroupFacts) (volume : VolumeFacts) : Prop :=
  ∃ name current target, plan desired group (some volume) = .error (.shrinkRefused name current target)

/-- What is planned for a volume in place from which `requested` megabytes are asked in the words `text`. Lower
bounds are over the integers, since a volume can be smaller than one unit. -/
structure GrowsByRequest (desired : DesiredState) (group : GroupFacts) (volume : VolumeFacts) (text : String)
    (requested : Megabytes) : Prop where
  overflow : ∀ fault : Fault, fault.RefusesSize → (plan desired group (some volume) = .error fault ↔
    fault = .invalidSize text ∧ alignToUnit requested group.unitSize = none)
  grow : group.unitSize.toNat ∣ volume.size.toNat →
    (PlansGrowth desired group volume ∨ plan desired group (some volume) = .error (.invalidSize text) ↔
      volume.size < requested)
  keep : group.unitSize.toNat ∣ volume.size.toNat → ∀ size,
    (plan desired group (some volume) = .ok (.keep (.sizeMatches size)) ↔ size = volume.size ∧
      (volume.size.toNat : ℤ) - group.unitSize.toNat < requested.toNat ∧ requested ≤ volume.size)
  refuse : group.unitSize.toNat ∣ volume.size.toNat → (RefusesShrink desired group volume ↔
    (requested.toNat : ℤ) ≤ (volume.size.toNat : ℤ) - group.unitSize.toNat)
  grow_monotone : ∀ other words larger, IsInPlace other (some volume) volume →
    Requests other words larger → requested ≤ larger →
    ∀ delta target, plan desired group (some volume) = .ok (.change (.resize delta target)) →
      (∃ more further, plan other group (some volume) = .ok (.change (.resize more further)) ∧
        delta ≤ more ∧ target ≤ further) ∨
      plan other group (some volume) = .error (.invalidSize words)
  overflow_monotone : ∀ other words larger, IsInPlace other (some volume) volume →
    Requests other words larger → requested ≤ larger →
    plan desired group (some volume) = .error (.invalidSize text) →
    plan other group (some volume) = .error (.invalidSize words)
  refuse_monotone : ∀ other words larger, IsInPlace other (some volume) volume →
    Requests other words larger → requested ≤ larger →
    RefusesShrink other group volume → RefusesShrink desired group volume
  unaligned : ¬ group.unitSize.toNat ∣ volume.size.toNat → ∀ size,
    plan desired group (some volume) ≠ .ok (.keep (.sizeMatches size))

variable {desired other : DesiredState} {group : GroupFacts} {volume : VolumeFacts} {text words : String}
  {requested larger : Megabytes}

section

variable {size : Megabytes} {fault : Fault}

lemma asksFor_ok (hunit : 0 < group.unitSize) (h : Requests desired text requested) :
    AsksFor desired group (.ok size) ↔
      size.toNat = leastMultiple group.unitSize.toNat requested.toNat := by
  obtain ⟨hsize, hread⟩ := h
  rw [← alignToUnit_eq_some hunit]
  simp only [AsksFor, hsize, Option.some.injEq, exists_eq_left', targetSize, hread]
  cases alignToUnit requested group.unitSize <;> simp

lemma asksFor_error (h : Requests desired text requested) : AsksFor desired group (.error fault) ↔
    fault = .invalidSize text ∧ alignToUnit requested group.unitSize = none := by
  obtain ⟨hsize, hread⟩ := h
  simp only [AsksFor, hsize, Option.some.injEq, exists_eq_left', targetSize, hread]
  cases alignToUnit requested group.unitSize <;> simp [eq_comm]

lemma IsInPlace.unique {seen : VolumeFacts} (h : IsInPlace desired (some volume) seen) : seen = volume :=
  (Option.some.inj h.2.1).symm

end

/-! Each outcome by how the size compares with the least multiple that holds the request. -/

section

variable (hplace : IsInPlace desired (some volume) volume) (hrequest : Requests desired text requested)
  (hunit : 0 < group.unitSize)

include hplace hrequest

lemma plan_refusesSize_iff {fault : Fault} (hfault : fault.RefusesSize) :
    plan desired group (some volume) = .error fault ↔
      fault = .invalidSize text ∧ alignToUnit requested group.unitSize = none := by
  rw [plan_eq_sizeFault hfault, asksFor_error hrequest]
  exact and_iff_right (.inr ⟨volume, hplace⟩)

include hunit

lemma plan_overflow_iff : plan desired group (some volume) = .error (.invalidSize text) ↔
    UInt64.size ≤ leastMultiple group.unitSize.toNat requested.toNat := by
  rw [plan_refusesSize_iff hplace hrequest ⟨text, .inl rfl⟩, alignToUnit_eq_none hunit]
  exact and_iff_right rfl

lemma plan_resize_iff {delta target : Megabytes} :
    plan desired group (some volume) = .ok (.change (.resize delta target)) ↔
      target.toNat = leastMultiple group.unitSize.toNat requested.toNat ∧ volume.size < target ∧
        delta = target - volume.size := by
  rw [plan_eq_resize, asksFor_ok hunit hrequest]
  refine and_congr_right fun _ => ⟨?_, fun h => ⟨volume, hplace, h⟩⟩
  rintro ⟨seen, hseen, hgrow⟩
  rwa [hseen.unique] at hgrow

lemma plan_sizeMatches_iff {size : Megabytes} :
    plan desired group (some volume) = .ok (.keep (.sizeMatches size)) ↔
      size = volume.size ∧ volume.size.toNat = leastMultiple group.unitSize.toNat requested.toNat := by
  rw [plan_eq_sizeMatches, asksFor_ok hunit hrequest]
  constructor
  · rintro ⟨hsize, seen, hseen, rfl⟩
    rw [hseen.unique] at hsize ⊢
    exact ⟨rfl, hsize⟩
  · rintro ⟨rfl, hsize⟩
    exact ⟨hsize, volume, hplace, rfl⟩

lemma refusesShrink_iff : RefusesShrink desired group volume ↔
    leastMultiple group.unitSize.toNat requested.toNat < volume.size.toNat := by
  simp only [RefusesShrink, plan_eq_shrinkRefused, asksFor_ok hunit hrequest]
  constructor
  · rintro ⟨name, current, target, _, htarget, hlt, seen, hseen, rfl⟩
    rwa [UInt64.lt_iff_toNat_lt, htarget, hseen.unique] at hlt
  · intro hlt
    obtain ⟨target, -, htarget⟩ := word?_of_lt (hlt.trans volume.size.toNat_lt_size)
    exact ⟨_, _, target, rfl, htarget, UInt64.lt_iff_toNat_lt.mpr (htarget ▸ hlt), volume, hplace, rfl⟩

lemma growth_or_overflow_iff :
    PlansGrowth desired group volume ∨ plan desired group (some volume) = .error (.invalidSize text) ↔
      volume.size.toNat < leastMultiple group.unitSize.toNat requested.toNat := by
  rw [plan_overflow_iff hplace hrequest hunit]
  simp only [PlansGrowth, plan_resize_iff hplace hrequest hunit]
  constructor
  · rintro (⟨delta, target, htarget, hgrow, _⟩ | hoverflow)
    · rwa [UInt64.lt_iff_toNat_lt, htarget] at hgrow
    · exact volume.size.toNat_lt_size.trans_le hoverflow
  · intro hlt
    rcases Nat.lt_or_ge (leastMultiple group.unitSize.toNat requested.toNat) UInt64.size with hfits | hoverflow
    · obtain ⟨target, -, htarget⟩ := word?_of_lt hfits
      exact .inl ⟨_, target, htarget, UInt64.lt_iff_toNat_lt.mpr (htarget ▸ hlt), rfl⟩
    · exact .inr hoverflow

end

/-! Two requests on the same facts. -/

section

variable (hplace : IsInPlace desired (some volume) volume) (hrequest : Requests desired text requested)
  (hother : IsInPlace other (some volume) volume) (hlarger : Requests other words larger)
  (hunit : 0 < group.unitSize) (hle : requested ≤ larger)

include hplace hrequest hother hlarger hunit hle

lemma plan_grows_more {delta target : Megabytes}
    (h : plan desired group (some volume) = .ok (.change (.resize delta target))) :
    (∃ more further, plan other group (some volume) = .ok (.change (.resize more further)) ∧
      delta ≤ more ∧ target ≤ further) ∨
    plan other group (some volume) = .error (.invalidSize words) := by
  have hmono := leastMultiple_mono (UInt64.lt_iff_toNat_lt.mp hunit) (UInt64.le_iff_toNat_le.mp hle)
  obtain ⟨htarget, hgrow, rfl⟩ := (plan_resize_iff hplace hrequest hunit).mp h
  have hlt : volume.size.toNat < leastMultiple group.unitSize.toNat larger.toNat := by
    rw [UInt64.lt_iff_toNat_lt, htarget] at hgrow
    exact hgrow.trans_le hmono
  refine ((growth_or_overflow_iff hother hlarger hunit).mpr hlt).imp_left ?_
  rintro ⟨more, further, hmore⟩
  obtain ⟨hfurther, hgrows, rfl⟩ := (plan_resize_iff hother hlarger hunit).mp hmore
  refine ⟨_, further, hmore, ?_, ?_⟩
  · rw [UInt64.le_iff_toNat_le, UInt64.toNat_sub_of_le _ _ (UInt64.le_of_lt hgrow),
      UInt64.toNat_sub_of_le _ _ (UInt64.le_of_lt hgrows), htarget, hfurther]
    exact Nat.sub_le_sub_right hmono _
  · rwa [UInt64.le_iff_toNat_le, htarget, hfurther]

lemma plan_overflows_still (h : plan desired group (some volume) = .error (.invalidSize text)) :
    plan other group (some volume) = .error (.invalidSize words) := by
  have hmono := leastMultiple_mono (UInt64.lt_iff_toNat_lt.mp hunit) (UInt64.le_iff_toNat_le.mp hle)
  rw [plan_overflow_iff hplace hrequest hunit] at h
  exact (plan_overflow_iff hother hlarger hunit).mpr (h.trans hmono)

lemma refusesShrink_before (h : RefusesShrink other group volume) : RefusesShrink desired group volume := by
  have hmono := leastMultiple_mono (UInt64.lt_iff_toNat_lt.mp hunit) (UInt64.le_iff_toNat_le.mp hle)
  rw [refusesShrink_iff hother hlarger hunit] at h
  exact (refusesShrink_iff hplace hrequest hunit).mpr (hmono.trans_lt h)

end

theorem growth_by_request (hplace : IsInPlace desired (some volume) volume)
    (hrequest : Requests desired text requested) (hunit : 0 < group.unitSize) :
    GrowsByRequest desired group volume text requested where
  overflow _ hfault := plan_refusesSize_iff hplace hrequest hfault
  grow hdvd := by
    have hpos : 0 < group.unitSize.toNat := UInt64.lt_iff_toNat_lt.mp hunit
    rw [growth_or_overflow_iff hplace hrequest hunit, UInt64.lt_iff_toNat_lt]
    exact not_iff_not.mp (by simpa only [Nat.not_lt] using leastMultiple_le_iff hpos hdvd)
  keep hdvd size := by
    have hpos : 0 < group.unitSize.toNat := UInt64.lt_iff_toNat_lt.mp hunit
    have hup : leastMultiple group.unitSize.toNat requested.toNat ≤ volume.size.toNat ↔
        requested.toNat ≤ volume.size.toNat := leastMultiple_le_iff hpos hdvd
    have hdown : leastMultiple group.unitSize.toNat requested.toNat < volume.size.toNat ↔
        requested.toNat + group.unitSize.toNat ≤ volume.size.toNat := leastMultiple_lt_iff hpos hdvd
    rw [plan_sizeMatches_iff hplace hrequest hunit, UInt64.le_iff_toNat_le]
    refine and_congr_right fun _ => ?_
    omega
  refuse hdvd := by
    rw [refusesShrink_iff hplace hrequest hunit,
      leastMultiple_lt_iff (UInt64.lt_iff_toNat_lt.mp hunit) hdvd]
    omega
  grow_monotone _ _ _ hother hlarger hle _ _ h :=
    plan_grows_more hplace hrequest hother hlarger hunit hle h
  overflow_monotone _ _ _ hother hlarger hle h :=
    plan_overflows_still hplace hrequest hother hlarger hunit hle h
  refuse_monotone _ _ _ hother hlarger hle h :=
    refusesShrink_before hplace hrequest hother hlarger hunit hle h
  unaligned hdvd size h := by
    obtain ⟨_, hsize⟩ := (plan_sizeMatches_iff hplace hrequest hunit).mp h
    exact hdvd (hsize ▸ dvd_leastMultiple _ _)

/-- One unit and a half are asked for where there are two, and nothing changes. -/
theorem two_units_for_one_and_half :
    IsInPlace { DesiredState.ofNames "datavg" "lv01" with size := some "1536M" }
      (some ⟨"lv01", "datavg", 2048, .maximum⟩) ⟨"lv01", "datavg", 2048, .maximum⟩ ∧
    Requests { DesiredState.ofNames "datavg" "lv01" with size := some "1536M" } "1536M" 1536 ∧
    0 < (GroupFacts.mk "datavg" 8192 4096 1024).unitSize ∧
    GrowsByRequest { DesiredState.ofNames "datavg" "lv01" with size := some "1536M" }
      ⟨"datavg", 8192, 4096, 1024⟩ ⟨"lv01", "datavg", 2048, .maximum⟩ "1536M" 1536 := by
  have hplace : IsInPlace { DesiredState.ofNames "datavg" "lv01" with size := some "1536M" }
      (some ⟨"lv01", "datavg", 2048, .maximum⟩) ⟨"lv01", "datavg", 2048, .maximum⟩ := ⟨rfl, rfl, rfl, rfl⟩
  have hrequest : Requests { DesiredState.ofNames "datavg" "lv01" with size := some "1536M" } "1536M" 1536 :=
    ⟨rfl, rfl⟩
  exact ⟨hplace, hrequest, by decide, growth_by_request hplace hrequest (by decide)⟩

end LogicalVolumes
