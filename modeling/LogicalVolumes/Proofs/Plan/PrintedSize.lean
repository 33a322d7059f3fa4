import LogicalVolumes.Proofs.Capacity.Ceiling
import LogicalVolumes.Proofs.Command.Amount
import LogicalVolumes.Proofs.Plan.Precedence

/-! A size that has been planned can be asked for as it is printed: it is read as itself, needs no alignment, and
the plan stays the same. -/

namespace LogicalVolumes

def DesiredState.asking (desired : DesiredState) (size : Megabytes) : DesiredState :=
  { desired with size := some (CommandLine.amount size) }

/-- Printed, the size is read as itself, and asking for it changes nothing of what is planned. -/
def Reprints (desired : DesiredState) (group : GroupFacts) (observed : Option VolumeFacts) (size : Megabytes) :
    Prop :=
  convertSize (CommandLine.amount size) = .ok size ∧
    plan (desired.asking size) group observed = plan desired group observed

structure PrintsAsRead (desired : DesiredState) (group : GroupFacts) (observed : Option VolumeFacts) : Prop where
  read : ∀ size, 1 ≤ size → convertSize (CommandLine.amount size) = .ok size
  aligned : ∀ text unitSize size, targetSize text unitSize = .ok size →
    targetSize (CommandLine.amount size) unitSize = .ok size
  create : ∀ layout, plan desired group observed = .ok (.change (.create layout)) →
    Reprints desired group observed layout.size ∧ ∀ program, ∃ options argument,
      CommandLine.forAction program desired (.change (.create layout)) =
        some ⟨program, options ++ [desired.groupName, argument] ++ layout.physicalVolumes⟩ ∧
      convertSize argument = .ok layout.size
  resize : ∀ delta target, plan desired group observed = .ok (.change (.resize delta target)) →
    Reprints desired group observed target ∧ ∀ program, ∃ argument,
      CommandLine.forAction program desired (.change (.resize delta target)) =
        some ⟨program, [desired.volumeName, argument]⟩ ∧
      convertSize argument = .ok delta
  keep : ∀ size, plan desired group observed = .ok (.keep (.sizeMatches size)) →
    Reprints desired group observed size

variable {desired : DesiredState} {group : GroupFacts} {observed : Option VolumeFacts} {layout : VolumeLayout}
  {text : String} {size unitSize delta target : Megabytes}

lemma le_of_alignToUnit {value : Megabytes} (h : alignToUnit value unitSize = some size) : value ≤ size := by
  by_cases hzero : unitSize = 0
  · rw [hzero, alignToUnit_zero] at h
    cases h
    exact UInt64.le_refl _
  · exact (alignToUnit_within (UInt64.pos_iff_ne_zero.mpr hzero) h).2.1

lemma targetSize_pos (h : targetSize text unitSize = .ok size) : 0 < size := by
  obtain ⟨requested, hread, haligned⟩ := targetSize_iff.mp h
  exact UInt64.lt_of_lt_of_le (convertSize_pos hread) (le_of_alignToUnit haligned)

lemma targetSize_amount (h : targetSize text unitSize = .ok size) :
    targetSize (CommandLine.amount size) unitSize = .ok size := by
  obtain ⟨requested, _, haligned⟩ := targetSize_iff.mp h
  exact targetSize_iff.mpr ⟨size, convertSize_amount (targetSize_pos h), alignToUnit_idempotent haligned⟩

namespace AsksFor

variable (h : AsksFor desired group (.ok size))

include h

lemma pos : 0 < size := by
  obtain ⟨text, _, htarget⟩ := h
  exact targetSize_pos htarget

lemma asking : AsksFor (desired.asking size) group (.ok size) := by
  obtain ⟨text, _, htarget⟩ := h
  exact ⟨_, rfl, targetSize_amount htarget⟩

lemma reprints {result : Except Fault Action} (hplan : plan desired group observed = result)
    (hagain : plan (desired.asking size) group observed = result) : Reprints desired group observed size :=
  ⟨convertSize_amount (pos h), hagain.trans hplan.symm⟩

end AsksFor

lemma reprints_create (h : plan desired group observed = .ok (.change (.create layout))) :
    Reprints desired group observed layout.size := by
  obtain ⟨hmissing, hasks, hrest⟩ := plan_eq_create.mp h
  exact hasks.reprints h (plan_eq_create.mpr ⟨hmissing, hasks.asking, hrest⟩)

lemma reprints_resize (h : plan desired group observed = .ok (.change (.resize delta target))) :
    Reprints desired group observed target := by
  obtain ⟨hasks, hgrows⟩ := plan_eq_resize.mp h
  exact hasks.reprints h (plan_eq_resize.mpr ⟨hasks.asking, hgrows⟩)

lemma reprints_keep (h : plan desired group observed = .ok (.keep (.sizeMatches size))) :
    Reprints desired group observed size := by
  obtain ⟨hasks, hfits⟩ := plan_eq_sizeMatches.mp h
  exact hasks.reprints h (plan_eq_sizeMatches.mpr ⟨hasks.asking, hfits⟩)

lemma delta_pos (h : plan desired group observed = .ok (.change (.resize delta target))) : 0 < delta := by
  obtain ⟨_, volume, _, hgrow, rfl⟩ := plan_eq_resize.mp h
  rw [UInt64.lt_iff_toNat_lt] at hgrow ⊢
  rw [UInt64.toNat_sub_of_le _ _ (UInt64.le_iff_toNat_le.mpr hgrow.le), UInt64.toNat_zero]
  omega

theorem sizes_printed_as_read (desired : DesiredState) (group : GroupFacts) (observed : Option VolumeFacts) :
    PrintsAsRead desired group observed where
  read _ hsize := convertSize_amount (UInt64.lt_of_lt_of_le (by decide) hsize)
  aligned _ _ _ := targetSize_amount
  create layout h :=
    ⟨reprints_create h, fun _ => ⟨_, CommandLine.amount layout.size, rfl, (reprints_create h).1⟩⟩
  resize delta target h :=
    ⟨reprints_resize h, fun _ => ⟨CommandLine.amount delta, rfl, convertSize_amount (delta_pos h)⟩⟩
  keep _ := reprints_keep

end LogicalVolumes
