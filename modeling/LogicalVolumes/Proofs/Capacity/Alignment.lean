import LogicalVolumes.Capacity
import LogicalVolumes.Number.Binary64
import LogicalVolumes.Proofs.Capacity.Grammar
import LogicalVolumes.Proofs.Number.Word
import Mathlib.Algebra.Order.Floor.Div

/-! Alignment gives the least whole number of units that holds a size, or nothing when no word does. -/

namespace LogicalVolumes

open Number

/-- The least multiple of `unit` that is not below `size`. -/
def leastMultiple (unit size : Nat) : Nat := unit * (size ⌈/⌉ unit)

section

variable {unit size n : Nat}

lemma dvd_leastMultiple (unit size : Nat) : unit ∣ leastMultiple unit size := Nat.dvd_mul_right _ _

lemma le_leastMultiple (size : Nat) (hunit : 0 < unit) : size ≤ leastMultiple unit size :=
  le_smul_ceilDiv hunit

lemma leastMultiple_le (hunit : 0 < unit) (hdvd : unit ∣ n) (hn : size ≤ n) :
    leastMultiple unit size ≤ n := by
  obtain ⟨k, rfl⟩ := hdvd
  exact Nat.mul_le_mul_left _ ((ceilDiv_le_iff_le_mul hunit).mpr hn)

lemma leastMultiple_le_iff (hunit : 0 < unit) (hdvd : unit ∣ n) : leastMultiple unit size ≤ n ↔ size ≤ n :=
  ⟨(le_leastMultiple size hunit).trans, leastMultiple_le hunit hdvd⟩

lemma leastMultiple_mono (hunit : 0 < unit) (hn : size ≤ n) :
    leastMultiple unit size ≤ leastMultiple unit n :=
  leastMultiple_le hunit (dvd_leastMultiple unit n) (hn.trans (le_leastMultiple n hunit))

lemma leastMultiple_lt (size : Nat) (hunit : 0 < unit) : leastMultiple unit size < size + unit := by
  rw [leastMultiple, Nat.ceilDiv_eq_add_pred_div]
  have := Nat.mul_div_le (size + unit - 1) unit
  omega

/-- Multiples differ by whole units. -/
lemma leastMultiple_lt_iff (hunit : 0 < unit) (hdvd : unit ∣ n) :
    leastMultiple unit size < n ↔ size + unit ≤ n := by
  constructor
  · intro hlt
    have hle := le_leastMultiple size hunit
    have := Nat.le_of_dvd (Nat.sub_pos_of_lt hlt) (Nat.dvd_sub hdvd (dvd_leastMultiple unit size))
    omega
  · exact (leastMultiple_lt size hunit).trans_le

/-- A multiple less than one unit above `size` is the least one. -/
lemma leastMultiple_eq (hunit : 0 < unit) (hdvd : unit ∣ n) (hn : size ≤ n) (hlt : n < size + unit) :
    leastMultiple unit size = n := by
  refine (leastMultiple_le hunit hdvd hn).antisymm (Nat.le_of_not_lt fun hbelow => ?_)
  have := (leastMultiple_lt_iff hunit hdvd).mp hbelow
  omega

lemma leastMultiple_of_remainder (hunit : 0 < unit) (hrem : 0 < size % unit) :
    leastMultiple unit size = unit * (size / unit + 1) := by
  have hdiv := Nat.div_add_mod size unit
  have hlt := Nat.mod_lt size hunit
  exact leastMultiple_eq hunit (Nat.dvd_mul_right _ _) (by rw [Nat.mul_succ]; omega)
    (by rw [Nat.mul_succ]; omega)

lemma leastMultiple_of_exact (hunit : 0 < unit) (hexact : size % unit = 0) :
    leastMultiple unit size = unit * (size / unit) := by
  have hdiv := Nat.div_add_mod size unit
  exact leastMultiple_eq hunit (Nat.dvd_mul_right _ _) (by omega) (by omega)

end

section

variable {value base : Megabytes}

lemma toNat_unit_sub_remainder (hbase : 0 < base) :
    (base - value % base).toNat = base.toNat - value.toNat % base.toNat := by
  have hlt := Nat.mod_lt value.toNat (UInt64.lt_iff_toNat_lt.mp hbase)
  rw [UInt64.toNat_sub_of_le _ _ (by rw [UInt64.le_iff_toNat_le, UInt64.toNat_mod]; omega),
    UInt64.toNat_mod]

lemma toNat_quotient_succ (hrem : 0 < value.toNat % base.toNat) (hbase : 0 < base) :
    (value / base + 1).toNat = value.toNat / base.toNat + 1 := by
  have hlt := Nat.mod_lt value.toNat (UInt64.lt_iff_toNat_lt.mp hbase)
  have hdiv := Nat.div_add_mod value.toNat base.toNat
  have hle : value.toNat / base.toNat ≤ base.toNat * (value.toNat / base.toNat) :=
    Nat.le_mul_of_pos_left _ (by omega)
  have hword := UInt64.toNat_lt_size value
  rw [UInt64.toNat_add, UInt64.toNat_div, UInt64.toNat_one, Nat.mod_eq_of_lt]
  show _ < UInt64.size
  omega

lemma nearestQuotient_eq (hbase : 0 < base) :
    (nearestQuotient value base).toNat = divToEven value.toNat base.toNat := by
  have hlt := Nat.mod_lt value.toNat (UInt64.lt_iff_toNat_lt.mp hbase)
  have hmore : base - value % base < value % base ↔ base.toNat < 2 * (value.toNat % base.toNat) := by
    rw [UInt64.lt_iff_toNat_lt, toNat_unit_sub_remainder hbase, UInt64.toNat_mod]
    omega
  have hhalf : value % base = base - value % base ↔ 2 * (value.toNat % base.toNat) = base.toNat := by
    rw [← UInt64.toNat_inj, toNat_unit_sub_remainder hbase, UInt64.toNat_mod]
    omega
  have hodd : value / base % 2 = 1 ↔ value.toNat / base.toNat % 2 = 1 := by
    rw [← UInt64.toNat_inj, UInt64.toNat_mod, UInt64.toNat_div]
    rfl
  simp only [nearestQuotient, divToEven, hmore, hhalf, hodd, gt_iff_lt]
  split
  · next hup => exact toNat_quotient_succ (by omega) hbase
  · exact UInt64.toNat_div value base

/-- The quotient below or, when the division leaves something, the one above. -/
def IsNeighbour (quotient value base : Megabytes) : Prop :=
  quotient.toNat = value.toNat / base.toNat ∨
    0 < value.toNat % base.toNat ∧ quotient.toNat = value.toNat / base.toNat + 1

lemma isNeighbour_nearest (value : Megabytes) (hbase : 0 < base) :
    IsNeighbour (nearestQuotient value base) value base := by
  have hpos : 0 < base.toNat := UInt64.lt_iff_toNat_lt.mp hbase
  rw [IsNeighbour, nearestQuotient_eq hbase, divToEven]
  split
  · next hup => exact .inr ⟨by omega, rfl⟩
  · exact .inl rfl

/-- The alignment that starts from this quotient. -/
def alignFrom (quotient value base : Megabytes) : Option Megabytes :=
  match product? quotient base with
  | none => none
  | some rounded => if rounded < value then sum? rounded base else some rounded

lemma alignToUnit_eq_alignFrom (hbase : 0 < base) :
    alignToUnit value base = alignFrom (nearestQuotient value base) value base := by
  have hne : base ≠ 0 := by
    rintro rfl
    simp at hbase
  rw [alignToUnit, if_neg hne]
  rfl

lemma alignFrom_eq {quotient : Megabytes} (hbase : 0 < base) (h : IsNeighbour quotient value base) :
    alignFrom quotient value base = word? (leastMultiple base.toNat value.toNat) := by
  have hpos : 0 < base.toNat := UInt64.lt_iff_toNat_lt.mp hbase
  have hdiv := Nat.div_add_mod value.toNat base.toNat
  have hlt := Nat.mod_lt value.toNat hpos
  rw [alignFrom, product?_eq, Nat.mul_comm]
  rcases h with hdown | ⟨hrem, hup⟩
  · -- the quotient below always fits; the bump gives the multiple above it unless nothing was left
    obtain ⟨rounded, hrounded, hnat⟩ := word?_of_lt (show base.toNat * (value.toNat / base.toNat) < _ by
      have := UInt64.toNat_lt_size value
      omega)
    simp only [hdown, hrounded]
    split
    · next hshort =>
      rw [UInt64.lt_iff_toNat_lt, hnat] at hshort
      rw [sum?_eq, hnat, leastMultiple_of_remainder hpos (by omega), Nat.mul_succ]
    · next hexact =>
      rw [UInt64.lt_iff_toNat_lt, hnat] at hexact
      rw [leastMultiple_of_exact hpos (by omega), hrounded]
  · rw [hup, leastMultiple_of_remainder hpos hrem]
    cases hrounded : word? (base.toNat * (value.toNat / base.toNat + 1)) with
    | none => rfl
    | some rounded =>
      have hnat := word?_eq_some.mp hrounded
      rw [Nat.mul_succ] at hnat
      simp only
      rw [if_neg]
      rw [UInt64.lt_iff_toNat_lt]
      omega

lemma alignToUnit_eq (hbase : 0 < base) :
    alignToUnit value base = word? (leastMultiple base.toNat value.toNat) := by
  rw [alignToUnit_eq_alignFrom hbase, alignFrom_eq hbase (isNeighbour_nearest value hbase)]

end

section

variable {text : String} {size unitSize : Megabytes} {fault : Fault}

lemma targetSize_iff : targetSize text unitSize = .ok size ↔
    ∃ requested, convertSize text = .ok requested ∧ alignToUnit requested unitSize = some size := by
  rw [targetSize]
  cases convertSize text with
  | error fault => simp
  | ok requested => cases halign : alignToUnit requested unitSize <;> simp [halign]

/-- A target is the least whole number of units that holds what was asked for. -/
lemma targetSize_eq_ok (hunit : 0 < unitSize) (h : targetSize text unitSize = .ok size) :
    ∃ requested, convertSize text = .ok requested ∧ 0 < requested ∧
      size.toNat = leastMultiple unitSize.toNat requested.toNat := by
  obtain ⟨requested, hrequested, haligned⟩ := targetSize_iff.mp h
  rw [alignToUnit_eq hunit] at haligned
  exact ⟨requested, hrequested, convertSize_pos hrequested, word?_eq_some.mp haligned⟩

lemma targetSize_error (h : targetSize text unitSize = .error fault) :
    ∃ size, fault = .invalidSize size ∨ fault = .unknownUnit size := by
  simp only [targetSize] at h
  split at h
  · next hsize =>
    cases h
    exact ⟨_, (convertSize_error hsize).symm⟩
  · split at h
    · cases h
      exact ⟨text, .inl rfl⟩
    · cases h

end

end LogicalVolumes
