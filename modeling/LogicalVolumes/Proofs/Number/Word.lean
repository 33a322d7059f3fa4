import LogicalVolumes.Number.Word
import Mathlib.Tactic.Lemma

/-! A word stands for one whole number, and what is computed on words is computed on whole numbers or refused. -/

namespace LogicalVolumes.Number

variable {n : Nat} {w : UInt64}

lemma word?_of_lt (hn : n < UInt64.size) : ∃ w, word? n = some w ∧ w.toNat = n :=
  ⟨_, if_pos hn, UInt64.toNat_ofNat_of_lt' hn⟩

lemma word?_eq_none : word? n = none ↔ UInt64.size ≤ n := by
  simp [word?]

lemma word?_eq_some : word? n = some w ↔ w.toNat = n := by
  constructor
  · intro h
    have hn : n < UInt64.size := Nat.lt_of_not_le fun hle => by simp [word?_eq_none.mpr hle] at h
    obtain ⟨v, hv, hnat⟩ := word?_of_lt hn
    cases hv.symm.trans h
    exact hnat
  · rintro rfl
    obtain ⟨v, hv, hnat⟩ := word?_of_lt w.toNat_lt_size
    rw [hv, UInt64.toNat_inj.mp hnat]

lemma product?_eq (a b : UInt64) : product? a b = word? (a.toNat * b.toNat) := by
  simp only [product?, word?]
  split
  · simp
  · rfl

lemma sum?_eq (a b : UInt64) : sum? a b = word? (a.toNat + b.toNat) := by
  simp only [sum?, word?]
  split
  · simp
  · rfl

end LogicalVolumes.Number
