import LogicalVolumes.Command
import LogicalVolumes.Proofs.Capacity.Grammar
import LogicalVolumes.Proofs.Text.Trim

/-! An amount on a command line is a size that is read back as the same one. -/

namespace LogicalVolumes

open Text

variable {size : Megabytes}

lemma amount_toList (size : Megabytes) : (CommandLine.amount size).toList = numeral size.toNat ++ ['M'] := by
  simp [CommandLine.amount, inDigits]

lemma amount_injective : Function.Injective CommandLine.amount := by
  intro size other h
  have hnumeral : numeral size.toNat = numeral other.toNat := by
    simpa [amount_toList] using congrArg String.toList h
  exact UInt64.toNat_inj.mp (numeral_injective hnumeral)

lemma amount_ne_flag (size : Megabytes) : CommandLine.amount size ≠ "-f" := by
  intro h
  have hlast := congrArg List.getLast? ((amount_toList size).symm.trans (congrArg String.toList h))
  simp at hlast

lemma amount_solid (size : Megabytes) : ∀ c ∈ (CommandLine.amount size).toList, isBlank c = false := by
  intro c hc
  rw [amount_toList] at hc
  rcases List.mem_append.mp hc with hdigit | hletter
  · have hword : isWord c = true := by rw [isWord, isDigit_of_mem_numeral hdigit, Bool.true_or]
    exact isBlank_of_word hword
  · obtain rfl := List.mem_singleton.mp hletter
    decide

lemma convertSize_amount (hsize : 0 < size) : convertSize (CommandLine.amount size) = .ok size := by
  have hletter : IsUnitLetter 0 'M' := ⟨_, rfl, by decide⟩
  apply convertSize_iff.mpr
  rw [trim_of_solid (amount_solid size)]
  exact .inRange (amount_toList size) hletter (isNumeral_numeral size.toNat)
    (UInt64.lt_iff_toNat_lt.mp hsize) (by rw [Nat.pow_zero, Nat.mul_one])

end LogicalVolumes
