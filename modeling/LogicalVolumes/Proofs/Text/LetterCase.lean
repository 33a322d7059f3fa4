import LogicalVolumes.Policy
import LogicalVolumes.Proofs.Text.Trim
import LogicalVolumes.Text.Word

/-! A policy is read from its word in any letter case. -/

namespace LogicalVolumes

namespace Text

variable {c : Char} {s : List Char}

lemma isAlpha_of_toLower (h : c.toLower.isLower = true) : c.isAlpha = true := by
  by_cases hupper : c.isUpper = true
  · exact (Bool.or_eq_true ..).mpr (.inl hupper)
  · have hsame : c.toLower = c := dif_neg fun hrange => hupper (decide_eq_true hrange)
    rw [hsame] at h
    exact (Bool.or_eq_true ..).mpr (.inr h)

lemma isAlpha_iff : c.isAlpha = true ↔ 0x41 ≤ c.toNat ∧ c.toNat ≤ 0x5A ∨ 0x61 ≤ c.toNat ∧ c.toNat ≤ 0x7A := by
  have hupper : c.isUpper = decide (0x41 ≤ c.val ∧ c.val ≤ 0x5A) := rfl
  have hlower : c.isLower = (decide (0x61 ≤ c.val) && decide (c.val ≤ 0x7A)) := rfl
  have halpha : c.isAlpha = (c.isUpper || c.isLower) := rfl
  simp [halpha, hupper, hlower, UInt32.le_iff_toNat_le]

lemma isWord_of_isAlpha (hc : c.isAlpha = true) : isWord c = true := by
  have hranges : (0x41, 0x5A) ∈ wordRanges ∧ (0x61, 0x7A) ∈ wordRanges := by decide +kernel
  have hword : inRanges wordRanges c = true := by
    rw [inRanges, List.any_eq_true]
    rcases isAlpha_iff.mp hc with hupper | hlower
    · exact ⟨_, hranges.1, by simpa using hupper⟩
    · exact ⟨_, hranges.2, by simpa using hlower⟩
  rw [isWord, hword, Bool.or_true]

lemma smallLetters_of_isAlpha (hc : c.isAlpha = true) : smallLetters c = [c.toLower] := by
  have hall : ∀ n : Fin 128, (Char.ofNat n).isAlpha = true →
      smallLetters (Char.ofNat n) = [(Char.ofNat n).toLower] := by decide +kernel
  have hascii : c.toNat < 128 := by
    have hrange := isAlpha_iff.mp hc
    omega
  have hsmall := hall ⟨c.toNat, hascii⟩
  rw [Char.ofNat_toNat] at hsmall
  exact hsmall hc

lemma lowercaseAfter_letters (before : List Char) (h : ∀ c ∈ s, c.isAlpha = true) :
    lowercaseAfter before s = s.map Char.toLower := by
  induction s generalizing before with
  | nil => rfl
  | cons c s ih =>
    have hletter := h c List.mem_cons_self
    have hc : c ≠ 'Σ' := by
      rintro rfl
      exact absurd hletter (by decide)
    rw [lowercaseAfter, if_neg hc, smallLetters_of_isAlpha hletter,
      ih _ fun d hd => h d (List.mem_cons_of_mem _ hd)]
    rfl

end Text

namespace PlacementPolicy

open Text

variable {policy : PlacementPolicy} {word : List Char}

lemma isAlpha_of_anyCase (h : word.map Char.toLower = policy.word.toList) : ∀ c ∈ word, c.isAlpha = true := by
  have hlower : ∀ c ∈ policy.word.toList, c.isLower = true := List.all_eq_true.mp (by cases policy <;> decide)
  exact fun c hc => isAlpha_of_toLower (hlower _ (h ▸ List.mem_map_of_mem hc))

lemma ofText_anyCase (h : word.map Char.toLower = policy.word.toList) :
    ofText (String.ofList word) = .ok policy := by
  have hletters := isAlpha_of_anyCase h
  have htrim : trim word = word := trim_of_solid fun c hc => isBlank_of_word (isWord_of_isAlpha (hletters c hc))
  have hlower : lowercase word = policy.word.toList := by
    rw [lowercase, lowercaseAfter_letters [] hletters, h]
  rw [ofText, String.toList_ofList, htrim, hlower, String.ofList_toList]
  cases policy <;> rfl

end PlacementPolicy

end LogicalVolumes
