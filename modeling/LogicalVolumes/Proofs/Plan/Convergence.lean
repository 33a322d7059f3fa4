import LogicalVolumes.Proofs.Plan.Decision

/-!
Repeated runs on one volume. The groups' facts may change from run to run, their partition size aside; each
planned change takes effect before the next run, and a run that fails changes nothing.
-/

namespace LogicalVolumes

def Change.applyTo (desired : DesiredState) (observed : Option VolumeFacts) : Change → Option VolumeFacts
  | .create layout => some ⟨desired.volumeName, desired.groupName, layout.size, layout.policy⟩
  | .delete => none
  | .resize delta _ => observed.map fun volume => { volume with size := volume.size + delta }
  | .setPolicy policy => observed.map fun volume => { volume with policy := policy }

def Action.applyTo (desired : DesiredState) (observed : Option VolumeFacts) : Action → Option VolumeFacts
  | .keep _ => observed
  | .change step => step.applyTo desired observed

def observedAt (desired : DesiredState) (groups : Nat → GroupFacts) (start : Option VolumeFacts) :
    Nat → Option VolumeFacts
  | 0 => start
  | i + 1 =>
    let observed := observedAt desired groups start i
    match plan desired (groups i) observed with
    | .ok action => action.applyTo desired observed
    | .error _ => observed

def plannedAt (desired : DesiredState) (groups : Nat → GroupFacts) (start : Option VolumeFacts) (i : Nat) :
    Except Fault Action :=
  plan desired (groups i) (observedAt desired groups start i)

structure Converges (desired : DesiredState) (groups : Nat → GroupFacts) (start : Option VolumeFacts) :
    Prop where
  stops : ∃ n ≤ 2, (∀ i < n, ∃ change, plannedAt desired groups start i = .ok (.change change)) ∧
    ((∃ reason, plannedAt desired groups start n = .ok (.keep reason)) ∨
      ∃ fault, plannedAt desired groups start n = .error fault)
  two_changes : ∀ i j change later, i < j → plannedAt desired groups start i = .ok (.change change) →
    plannedAt desired groups start j = .ok (.change later) →
    j = i + 1 ∧ (∃ policy, change = .setPolicy policy) ∧ ∃ delta target, later = .resize delta target
  kept_after : ∀ i change, plannedAt desired groups start i = .ok (.change change) →
    (∀ policy, change ≠ .setPolicy policy) →
    ∃ reason, plannedAt desired groups start (i + 1) = .ok (.keep reason)
  policy_once : ∀ i policy other, plannedAt desired groups start i = .ok (.change (.setPolicy policy)) →
    plannedAt desired groups start (i + 1) ≠ .ok (.change (.setPolicy other))
  kept_forever : ∀ i reason, plannedAt desired groups start i = .ok (.keep reason) →
    ∀ j, i ≤ j → plannedAt desired groups start j = .ok (.keep reason)
  resized_exactly : ∀ i delta target,
    plannedAt desired groups start i = .ok (.change (.resize delta target)) →
    ∃ volume, observedAt desired groups start i = some volume ∧
      volume.size.toNat + delta.toNat = target.toNat

variable {desired : DesiredState} {groups : Nat → GroupFacts} {start : Option VolumeFacts} {unit : Megabytes}

lemma observedAt_succ_of_ok {i : Nat} {action : Action}
    (h : plannedAt desired groups start i = .ok action) :
    observedAt desired groups start (i + 1) = action.applyTo desired (observedAt desired groups start i) := by
  simp only [plannedAt] at h
  simp only [observedAt, h]

lemma observedAt_succ_of_error {i : Nat} {fault : Fault}
    (h : plannedAt desired groups start i = .error fault) :
    observedAt desired groups start (i + 1) = observedAt desired groups start i := by
  simp only [plannedAt] at h
  simp only [observedAt, h]

lemma plan_keep_congr {observed : Option VolumeFacts} {group group' : GroupFacts} {reason : KeepReason}
    (hunit : group'.unitSize = group.unitSize) (h : plan desired group observed = .ok (.keep reason)) :
    plan desired group' observed = .ok (.keep reason) := by
  cases plan_spec h with
  | stayAbsent hp => simp only [plan, hp]
  | create _ hc => cases hc
  | update => rwa [plan_some_congr hunit]

lemma plan_resize {observed : Option VolumeFacts} {group : GroupFacts} {delta target : Megabytes}
    (h : plan desired group observed = .ok (.change (.resize delta target))) :
    ∃ volume, observed = some volume ∧ volume.size < target ∧ delta = target - volume.size := by
  cases plan_spec h with
  | create _ hc => cases hc
  | @update volume _ _ hu =>
    cases hu with
    | grow _ _ _ _ hgrow => exact ⟨volume, rfl, hgrow, rfl⟩

lemma plan_after_setPolicy {observed : Option VolumeFacts} {group : GroupFacts} {policy : PlacementPolicy}
    (group' : GroupFacts) (h : plan desired group observed = .ok (.change (.setPolicy policy))) :
    ∃ volume, (Change.setPolicy policy).applyTo desired observed = some volume ∧
      ∀ later, plan desired group' (some volume) = .ok (.change later) →
        ∃ delta target, later = .resize delta target := by
  cases plan_spec h with
  | create _ hc => cases hc
  | @update volume _ hp hu =>
    cases hu with
    | setPolicy =>
      refine ⟨_, rfl, fun later hl => ?_⟩
      cases plan_spec hl with
      | delete _ ha => simp [hp] at ha
      | update _ hu' =>
        cases hu' with
        | setPolicy hne => exact (hne rfl).elim
        | grow => exact ⟨_, _, rfl⟩

lemma plan_after_change {observed : Option VolumeFacts} {group group' : GroupFacts} {change : Change}
    (hunit : group'.unitSize = group.unitSize) (h : plan desired group observed = .ok (.change change))
    (hne : ∀ policy, change ≠ .setPolicy policy) :
    ∃ reason, plan desired group' (change.applyTo desired observed) = .ok (.keep reason) := by
  cases plan_spec h with
  | delete _ hp => exact ⟨.alreadyAbsent, by simp only [Change.applyTo, plan, hp]⟩
  | create hp hc =>
    cases hc with
    | create htext hsize _ _ _ hpolicy =>
      rw [← hunit] at hsize
      exact ⟨_, by simpa only [Change.applyTo, plan, hp] using (UpdatePlan.fits hpolicy rfl htext hsize).eq⟩
  | @update volume _ hp hu =>
    cases hu with
    | setPolicy => exact (hne _ rfl).elim
    | @grow _ target hpolicy hgroup htext hsize =>
      have hgrown : volume.size + (target - volume.size) = target := by
        rw [UInt64.add_comm, UInt64.sub_add_cancel]
      rw [← hunit, ← hgrown] at hsize
      have hfits : UpdatePlan desired group' { volume with size := volume.size + (target - volume.size) } _ :=
        .fits hpolicy hgroup htext hsize
      exact ⟨_, by simpa only [Change.applyTo, plan, hp, Option.map_some] using hfits.eq⟩

lemma plannedAt_stays (hunit : ∀ i, (groups i).unitSize = unit) {i : Nat} {result : Except Fault Action}
    (hno : ∀ change, result ≠ .ok (.change change))
    (hplan : ∀ group : GroupFacts, group.unitSize = unit →
      plan desired group (observedAt desired groups start i) = result)
    {j : Nat} (hij : i ≤ j) : plannedAt desired groups start j = result := by
  -- no run from here on plans a change, so each finds the volume as this one does
  have hstill : observedAt desired groups start j = observedAt desired groups start i := by
    induction hij with
    | refl => rfl
    | @step j _ ih =>
      have hj : plannedAt desired groups start j = result := by
        rw [plannedAt, ih]
        exact hplan _ (hunit j)
      cases result with
      | error fault => rw [observedAt_succ_of_error hj, ih]
      | ok action =>
        cases action with
        | keep reason => rw [observedAt_succ_of_ok hj, ih]; rfl
        | change change => exact (hno change rfl).elim
  rw [plannedAt, hstill]
  exact hplan _ (hunit j)

lemma kept_forever (hunit : ∀ i, (groups i).unitSize = unit) {i : Nat} {reason : KeepReason}
    (h : plannedAt desired groups start i = .ok (.keep reason)) {j : Nat} (hij : i ≤ j) :
    plannedAt desired groups start j = .ok (.keep reason) :=
  plannedAt_stays hunit (by simp) (fun _ hg => plan_keep_congr (hg.trans (hunit i).symm) h) hij

lemma kept_after_change (hunit : ∀ i, (groups i).unitSize = unit) {i : Nat} {change : Change}
    (h : plannedAt desired groups start i = .ok (.change change))
    (hne : ∀ policy, change ≠ .setPolicy policy) :
    ∃ reason, plannedAt desired groups start (i + 1) = .ok (.keep reason) := by
  rw [plannedAt, observedAt_succ_of_ok h]
  exact plan_after_change ((hunit (i + 1)).trans (hunit i).symm) h hne

lemma no_change_after (hunit : ∀ i, (groups i).unitSize = unit) {i j : Nat} {change later : Change}
    (hij : i < j) (h : plannedAt desired groups start i = .ok (.change change))
    (hne : ∀ policy, change ≠ .setPolicy policy) :
    plannedAt desired groups start j ≠ .ok (.change later) := by
  obtain ⟨reason, hk⟩ := kept_after_change hunit h hne
  rw [kept_forever hunit hk hij]
  simp

lemma resize_after_setPolicy (hunit : ∀ i, (groups i).unitSize = unit) {i j : Nat} {policy : PlacementPolicy}
    {later : Change} (hij : i < j) (h : plannedAt desired groups start i = .ok (.change (.setPolicy policy)))
    (hl : plannedAt desired groups start j = .ok (.change later)) :
    j = i + 1 ∧ ∃ delta target, later = .resize delta target := by
  obtain ⟨volume, hv, hresize⟩ := plan_after_setPolicy (groups (i + 1)) h
  have ho : observedAt desired groups start (i + 1) = some volume := (observedAt_succ_of_ok h).trans hv
  have hplan : ∀ group : GroupFacts, group.unitSize = unit →
      plan desired group (observedAt desired groups start (i + 1)) =
        plannedAt desired groups start (i + 1) := by
    intro group hg
    rw [plannedAt, ho]
    exact plan_some_congr (hg.trans (hunit (i + 1)).symm)
  -- the run right after the change of policy settles what all later runs can plan
  by_cases hc : ∃ change, plannedAt desired groups start (i + 1) = .ok (.change change)
  · obtain ⟨change, hc⟩ := hc
    obtain ⟨delta, target, rfl⟩ := hresize change (by rw [← hc, plannedAt, ho])
    rcases Nat.lt_or_eq_of_le (Nat.succ_le_of_lt hij) with hlt | rfl
    · exact (no_change_after hunit hlt hc (by simp) hl).elim
    · cases hc.symm.trans hl
      exact ⟨rfl, delta, target, rfl⟩
  · have hj := plannedAt_stays hunit (fun change hp => hc ⟨change, hp⟩) hplan (Nat.succ_le_of_lt hij)
    exact (hc ⟨later, hj.symm.trans hl⟩).elim

lemma two_changes (hunit : ∀ i, (groups i).unitSize = unit) {i j : Nat} {change later : Change} (hij : i < j)
    (h : plannedAt desired groups start i = .ok (.change change))
    (hl : plannedAt desired groups start j = .ok (.change later)) :
    j = i + 1 ∧ (∃ policy, change = .setPolicy policy) ∧ ∃ delta target, later = .resize delta target := by
  by_cases hp : ∃ policy, change = .setPolicy policy
  · obtain ⟨policy, rfl⟩ := hp
    obtain ⟨hj, hr⟩ := resize_after_setPolicy hunit hij h hl
    exact ⟨hj, ⟨policy, rfl⟩, hr⟩
  · exact (no_change_after hunit hij h (fun policy he => hp ⟨policy, he⟩) hl).elim

lemma change_or_stop (i : Nat) : (∃ change, plannedAt desired groups start i = .ok (.change change)) ∨
    (∃ reason, plannedAt desired groups start i = .ok (.keep reason)) ∨
      ∃ fault, plannedAt desired groups start i = .error fault := by
  cases plannedAt desired groups start i with
  | error fault => exact .inr (.inr ⟨fault, rfl⟩)
  | ok action =>
    cases action with
    | keep reason => exact .inr (.inl ⟨reason, rfl⟩)
    | change change => exact .inl ⟨change, rfl⟩

theorem repeated_runs_converge (desired : DesiredState) (start : Option VolumeFacts)
    (groups : Nat → GroupFacts) (unit : Megabytes) (hunit : ∀ i, (groups i).unitSize = unit) :
    Converges desired groups start where
  stops := by
    rcases change_or_stop 0 with h₀ | hstop
    · rcases change_or_stop 1 with h₁ | hstop
      · rcases change_or_stop 2 with ⟨later, h₂⟩ | hstop
        · -- a third change would make the second one both a change of policy and a resize
          obtain ⟨first, h₀⟩ := h₀
          obtain ⟨second, h₁⟩ := h₁
          obtain ⟨_, _, delta, target, rfl⟩ := two_changes hunit (by omega) h₀ h₁
          obtain ⟨_, ⟨policy, hp⟩, _⟩ := two_changes hunit (by omega) h₁ h₂
          cases hp
        · refine ⟨2, by omega, fun i hi => ?_, hstop⟩
          obtain rfl | rfl : i = 0 ∨ i = 1 := by omega
          · exact h₀
          · exact h₁
      · refine ⟨1, by omega, fun i hi => ?_, hstop⟩
        obtain rfl : i = 0 := by omega
        exact h₀
    · exact ⟨0, by omega, fun i hi => by omega, hstop⟩
  two_changes i j change later hij h hl := two_changes hunit hij h hl
  kept_after i change h hne := kept_after_change hunit h hne
  policy_once i policy other h hl := by
    obtain ⟨_, _, _, hr⟩ := resize_after_setPolicy hunit (Nat.lt_succ_self i) h hl
    cases hr
  kept_forever i reason h j hij := kept_forever hunit h hij
  resized_exactly i delta target h := by
    obtain ⟨volume, ho, hlt, rfl⟩ := plan_resize h
    refine ⟨volume, ho, ?_⟩
    have hle : volume.size ≤ target := UInt64.le_of_lt hlt
    rw [UInt64.toNat_sub_of_le _ _ hle]
    exact Nat.add_sub_cancel' (UInt64.le_iff_toNat_le.mp hle)

theorem policy_then_size_converges :
    (∀ i : Nat, (GroupFacts.mk "datavg" (UInt64.ofNat i) 0 4).unitSize = 4) ∧
      Converges { DesiredState.ofNames "datavg" "lv01" with size := some "2G" }
        (fun i => ⟨"datavg", UInt64.ofNat i, 0, 4⟩) (some ⟨"lv01", "datavg", 512, .minimum⟩) :=
  ⟨fun _ => rfl, repeated_runs_converge _ _ _ 4 fun _ => rfl⟩

example : (List.range 4).map
    (plannedAt { DesiredState.ofNames "datavg" "lv01" with size := some "2G" }
      (fun i => ⟨"datavg", UInt64.ofNat i, 0, 4⟩) (some ⟨"lv01", "datavg", 512, .minimum⟩)) =
    [.ok (.change (.setPolicy .maximum)), .ok (.change (.resize 1536 2048)),
      .ok (.keep (.sizeMatches 2048)), .ok (.keep (.sizeMatches 2048))] := by
  rfl

end LogicalVolumes
