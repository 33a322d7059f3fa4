import LogicalVolumes.Proofs.Capacity.Alignment
import Mathlib.Order.Bounds.Basic

/-! Alignment is the exact ceiling. No step of it wraps round, and the way in which its quotient is rounded never
shows. -/

namespace LogicalVolumes

open Number

/-- The whole numbers of units that hold `value`. -/
def multiplesFrom (base value : Megabytes) : Set Nat := {n | base.toNat ∣ n ∧ value.toNat ≤ n}

/-- The steps are compared with the same steps on whole numbers, so that none can have wrapped round. -/
structure AlignsExactly (value base : Megabytes) : Prop where
  unaligned : base = 0 → alignToUnit value base = some value
  least : 0 < base → ∀ aligned, alignToUnit value base = some aligned ↔
    IsLeast (multiplesFrom base value) aligned.toNat
  overflow : 0 < base → (alignToUnit value base = none ↔
    ∃ n, IsLeast (multiplesFrom base value) n ∧ UInt64.size ≤ n)
  within : 0 < base → ∀ aligned, alignToUnit value base = some aligned →
    aligned % base = 0 ∧ value ≤ aligned ∧ aligned.toNat < value.toNat + base.toNat
  gap_exact : 0 < base → (base - value % base).toNat + (value % base).toNat = base.toNat
  quotient_exact : 0 < base → (nearestQuotient value base).toNat = divToEven value.toNat base.toNat
  product_exact : 0 < base → product? (nearestQuotient value base) base =
    word? (divToEven value.toNat base.toNat * base.toNat)
  bump_exact : 0 < base → ∀ rounded, product? (nearestQuotient value base) base = some rounded →
    sum? rounded base = word? (divToEven value.toNat base.toNat * base.toNat + base.toNat)
  tie_unseen : 0 < base → ∀ quotient, IsNeighbour quotient value base →
    alignFrom quotient value base = alignToUnit value base
  idempotent : ∀ aligned, alignToUnit value base = some aligned → alignToUnit aligned base = some aligned
  monotone : ∀ larger target, value ≤ larger → alignToUnit larger base = some target →
    ∃ aligned, alignToUnit value base = some aligned ∧ aligned ≤ target

variable {value base larger aligned target : Megabytes}

lemma isLeast_leastMultiple (value : Megabytes) (hbase : 0 < base) :
    IsLeast (multiplesFrom base value) (leastMultiple base.toNat value.toNat) := by
  have hpos : 0 < base.toNat := UInt64.lt_iff_toNat_lt.mp hbase
  refine ⟨⟨dvd_leastMultiple _ _, le_leastMultiple _ hpos⟩, ?_⟩
  rintro n ⟨hdvd, hle⟩
  exact leastMultiple_le hpos hdvd hle

lemma alignToUnit_zero (value : Megabytes) : alignToUnit value 0 = some value := if_pos rfl

lemma alignToUnit_eq_some (hbase : 0 < base) :
    alignToUnit value base = some aligned ↔ aligned.toNat = leastMultiple base.toNat value.toNat := by
  rw [alignToUnit_eq hbase, word?_eq_some]

lemma alignToUnit_eq_none (hbase : 0 < base) :
    alignToUnit value base = none ↔ UInt64.size ≤ leastMultiple base.toNat value.toNat := by
  rw [alignToUnit_eq hbase, word?_eq_none]

lemma alignToUnit_isLeast (hbase : 0 < base) :
    alignToUnit value base = some aligned ↔ IsLeast (multiplesFrom base value) aligned.toNat := by
  have hleast := isLeast_leastMultiple value hbase
  rw [alignToUnit_eq_some hbase]
  constructor
  · intro h
    rwa [h]
  · exact fun h => h.unique hleast

lemma alignToUnit_overflow (hbase : 0 < base) :
    alignToUnit value base = none ↔ ∃ n, IsLeast (multiplesFrom base value) n ∧ UInt64.size ≤ n := by
  have hleast := isLeast_leastMultiple value hbase
  rw [alignToUnit_eq_none hbase]
  constructor
  · exact fun h => ⟨_, hleast, h⟩
  · rintro ⟨n, hn, hsize⟩
    rwa [hleast.unique hn]

lemma alignToUnit_within (hbase : 0 < base) (h : alignToUnit value base = some aligned) :
    aligned % base = 0 ∧ value ≤ aligned ∧ aligned.toNat < value.toNat + base.toNat := by
  have hpos : 0 < base.toNat := UInt64.lt_iff_toNat_lt.mp hbase
  have hnat := (alignToUnit_eq_some hbase).mp h
  refine ⟨?_, ?_, ?_⟩
  · rw [← UInt64.toNat_inj, UInt64.toNat_mod, hnat]
    exact Nat.mod_eq_zero_of_dvd (dvd_leastMultiple _ _)
  · rw [UInt64.le_iff_toNat_le, hnat]
    exact le_leastMultiple _ hpos
  · rw [hnat]
    exact leastMultiple_lt _ hpos

lemma alignToUnit_idempotent (h : alignToUnit value base = some aligned) :
    alignToUnit aligned base = some aligned := by
  by_cases hzero : base = 0
  · rw [hzero, alignToUnit_zero]
  · have hbase : 0 < base := UInt64.pos_iff_ne_zero.mpr hzero
    have hpos : 0 < base.toNat := UInt64.lt_iff_toNat_lt.mp hbase
    rw [alignToUnit_eq_some hbase] at h ⊢
    have hdvd : base.toNat ∣ aligned.toNat := h ▸ dvd_leastMultiple _ _
    exact (leastMultiple_eq hpos hdvd le_rfl (by omega)).symm

lemma alignToUnit_monotone (hle : value ≤ larger) (h : alignToUnit larger base = some target) :
    ∃ aligned, alignToUnit value base = some aligned ∧ aligned ≤ target := by
  by_cases hzero : base = 0
  · rw [hzero, alignToUnit_zero] at h
    cases h
    exact ⟨value, by rw [hzero, alignToUnit_zero], hle⟩
  · have hbase : 0 < base := UInt64.pos_iff_ne_zero.mpr hzero
    have hpos : 0 < base.toNat := UInt64.lt_iff_toNat_lt.mp hbase
    rw [alignToUnit_eq_some hbase] at h
    -- what holds the larger size holds the smaller one as well
    have hholds : leastMultiple base.toNat value.toNat ≤ target.toNat :=
      h ▸ leastMultiple_mono hpos (UInt64.le_iff_toNat_le.mp hle)
    obtain ⟨aligned, haligned, hnat⟩ := word?_of_lt (hholds.trans_lt target.toNat_lt_size)
    refine ⟨aligned, (alignToUnit_eq hbase).trans haligned, ?_⟩
    rwa [UInt64.le_iff_toNat_le, hnat]

theorem aligned_to_ceiling (value base : Megabytes) : AlignsExactly value base where
  unaligned hzero := by rw [hzero, alignToUnit_zero]
  least hbase _ := alignToUnit_isLeast hbase
  overflow hbase := alignToUnit_overflow hbase
  within hbase _ h := alignToUnit_within hbase h
  gap_exact hbase := by
    have hlt := Nat.mod_lt value.toNat (UInt64.lt_iff_toNat_lt.mp hbase)
    rw [toNat_unit_sub_remainder hbase, UInt64.toNat_mod]
    omega
  quotient_exact hbase := nearestQuotient_eq hbase
  product_exact hbase := by rw [product?_eq, nearestQuotient_eq hbase]
  bump_exact hbase rounded h := by
    rw [product?_eq, nearestQuotient_eq hbase] at h
    rw [sum?_eq, word?_eq_some.mp h]
  tie_unseen hbase quotient hquotient := by
    rw [alignFrom_eq hbase hquotient, alignToUnit_eq hbase]
  idempotent _ h := alignToUnit_idempotent h
  monotone _ _ hle h := alignToUnit_monotone hle h

/-- Within one unit of the largest word: the multiple that is there, and the one that is not. -/
example : alignToUnit 18446744073709551612 4 = some 18446744073709551612 ∧
    alignToUnit 18446744073709551613 4 = none := by
  decide

end LogicalVolumes
