import LogicalVolumes.Proofs.Command.Amount
import LogicalVolumes.Proofs.Text.Tokens

/-! The command that makes a volume: each of its arguments, and that nothing of the layout is lost in them. -/

namespace LogicalVolumes

open CommandLine Text

structure CreatesAsLaidOut (program group volume : String) (layout : VolumeLayout) : Prop where
  arguments : ∃ copies tokens size, IsDecimal copies layout.copies.toNat ∧
    CutsAtBlanks layout.options.toList tokens ∧ IsDecimal size layout.size.toNat ∧
      createVolume program group volume layout = ⟨program,
        ["-t", layout.volumeType, "-y", volume, "-c", String.ofList copies, "-e", layout.policy.flag] ++
          tokens.map String.ofList ++ [group, String.ofList (size ++ ['M'])] ++ layout.physicalVolumes⟩
  nothing_lost : ∀ program' group' volume' layout',
    layout'.physicalVolumes.length = layout.physicalVolumes.length →
    (createVolume program' group' volume' layout').args = (createVolume program group volume layout).args →
      volume' = volume ∧ group' = group ∧ layout'.volumeType = layout.volumeType ∧
      layout'.copies = layout.copies ∧ layout'.policy = layout.policy ∧ layout'.size = layout.size ∧
      layout'.physicalVolumes = layout.physicalVolumes ∧
      SameTokens layout'.options.toList layout.options.toList
  spacing_unseen : ∀ options : String, SameTokens options.toList layout.options.toList →
    createVolume program group volume { layout with options := options } =
      createVolume program group volume layout

variable {program program' group group' volume volume' : String} {layout layout' : VolumeLayout}

lemma flag_injective : Function.Injective PlacementPolicy.flag := by
  intro policy other h
  cases policy <;> cases other <;> simp_all [PlacementPolicy.flag]

lemma inDigits_injective : Function.Injective inDigits :=
  fun _ _ h => numeral_injective (String.ofList_injective h)

/-- The options end where the group stands, which is found by counting from the end. -/
lemma createVolume_args_inj (hcount : layout'.physicalVolumes.length = layout.physicalVolumes.length)
    (h : (createVolume program' group' volume' layout').args =
      (createVolume program group volume layout).args) :
    volume' = volume ∧ group' = group ∧ layout'.volumeType = layout.volumeType ∧
      layout'.copies = layout.copies ∧ layout'.policy = layout.policy ∧ layout'.size = layout.size ∧
      layout'.physicalVolumes = layout.physicalVolumes ∧
      SameTokens layout'.options.toList layout.options.toList := by
  simp only [createVolume, List.append_assoc, List.cons_append, List.nil_append, List.cons.injEq, true_and] at h
  obtain ⟨htype, hvolume, hcopies, hpolicy, hrest⟩ := h
  obtain ⟨htokens, htail⟩ := List.append_inj' hrest (by simp [hcount])
  simp only [List.cons.injEq] at htail
  obtain ⟨hgroup, hsize, hvolumes⟩ := htail
  have hwords := List.map_injective_iff.mpr (fun _ _ => String.ofList_injective) htokens
  exact ⟨hvolume, hgroup, htype, UInt8.toNat_inj.mp (inDigits_injective hcopies), flag_injective hpolicy,
    amount_injective hsize, hvolumes, sameTokens_iff.mpr hwords⟩

theorem creation_as_laid_out (program group volume : String) (layout : VolumeLayout) :
    CreatesAsLaidOut program group volume layout where
  arguments := ⟨numeral layout.copies.toNat, words layout.options.toList, numeral layout.size.toNat,
    isDecimal_numeral _, words_cutsAtBlanks _, isDecimal_numeral _, by
      simp [createVolume, amount, inDigits, String.ofList_append]⟩
  nothing_lost _ _ _ _ := createVolume_args_inj
  spacing_unseen options h := by
    simp only [createVolume, sameTokens_iff.mp h]

/-- Options may look like the group and the size behind them. -/
example : (createVolume "mklv" "datavg" "lv01" ⟨512, "jfs2", 2, .minimum, "datavg\t 64M ", ["hdisk1"]⟩).args =
    ["-t", "jfs2", "-y", "lv01", "-c", "2", "-e", "m", "datavg", "64M", "datavg", "512M", "hdisk1"] := by
  decide +kernel

end LogicalVolumes
