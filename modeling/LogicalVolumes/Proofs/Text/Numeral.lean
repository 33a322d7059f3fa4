import LogicalVolumes.Proofs.Number.Word
import LogicalVolumes.Text.Digit
import LogicalVolumes.Text.Numeral

/-! Which texts are read as numerals, and that what is written as a numeral is read back as the same number. -/

namespace LogicalVolumes.Text

open Number

/-- Digits, one at least, behind a plus sign or without one, and the number that they write. -/
def IsNumeral (s : List Char) (value : Nat) : Prop :=
  ∃ sign digits, s = sign ++ digits ∧ (sign = [] ∨ sign = ['+']) ∧ digits ≠ [] ∧
    (∀ c ∈ digits, c.isDigit = true) ∧ Nat.ofDigitChars 10 digits 0 = value

/-- The number is written in digits as short as can be. -/
structure IsDecimal (s : List Char) (value : Nat) : Prop where
  nonempty : s ≠ []
  digits : ∀ c ∈ s, c.isDigit = true
  denotes : Nat.ofDigitChars 10 s 0 = value
  no_leading_zero : s.head? = some '0' → s = ['0']

variable {c : Char} {s : List Char} {d value n : Nat} {w : UInt64}

lemma asciiDigit_iff : c.isDigit = true ↔ '0' ≤ c ∧ c ≤ '9' := by
  simp [Char.isDigit, Char.le_def]

lemma digitValue?_eq_some : digitValue? 10 c = some d ↔ c.isDigit = true ∧ c.toNat - '0'.toNat = d := by
  rw [asciiDigit_iff]
  by_cases hdigit : '0' ≤ c ∧ c ≤ '9'
  · have hvalue : c.toNat - '0'.toNat < 10 := by
      have hhigh : c.toNat ≤ 57 := hdigit.2
      show c.toNat - 48 < 10
      omega
    simp only [digitValue?, if_pos hdigit, if_pos hvalue, Option.some.injEq, and_iff_right hdigit]
  · -- letters are digits of larger bases only
    have hletter : ∀ n, ¬ n + 10 < 10 := by omega
    simp only [digitValue?, if_neg hdigit]
    split
    · simp [hletter, hdigit]
    · split <;> simp [hletter, hdigit]

lemma readDigits_eq_some : readDigits 10 value s = some n ↔
    (∀ c ∈ s, c.isDigit = true) ∧ Nat.ofDigitChars 10 s value = n := by
  induction s generalizing value with
  | nil => simp [readDigits]
  | cons c s ih =>
    simp only [readDigits, Option.bind_eq_some_iff, digitValue?_eq_some, ih, Nat.ofDigitChars_cons,
      List.forall_mem_cons]
    constructor
    · rintro ⟨d, ⟨hc, rfl⟩, hs, hn⟩
      exact ⟨⟨hc, hs⟩, by rwa [Nat.mul_comm]⟩
    · rintro ⟨⟨hc, hs⟩, hn⟩
      exact ⟨_, ⟨hc, rfl⟩, hs, by rwa [Nat.mul_comm]⟩

lemma readNatural_eq_some : readNatural 10 s = some n ↔
    s ≠ [] ∧ (∀ c ∈ s, c.isDigit = true) ∧ Nat.ofDigitChars 10 s 0 = n := by
  cases s with
  | nil => simp [readNatural]
  | cons c s => simp [readNatural, readDigits_eq_some]

lemma readUnsigned_eq_some : readUnsigned 10 s = some n ↔ IsNumeral s n := by
  constructor
  · intro h
    rw [readUnsigned.eq_def] at h
    split at h
    · next s => exact ⟨['+'], s, rfl, .inr rfl, readNatural_eq_some.mp h⟩
    · exact ⟨[], s, rfl, .inl rfl, readNatural_eq_some.mp h⟩
  · rintro ⟨sign, digits, rfl, rfl | rfl, hdigits⟩
    · rw [List.nil_append, readUnsigned.eq_2]
      · exact readNatural_eq_some.mpr hdigits
      · rintro t rfl
        exact absurd (hdigits.2.1 '+' List.mem_cons_self) (by decide)
    · exact readNatural_eq_some.mpr hdigits

lemma readWord_eq_some : readWord s = some w ↔ IsNumeral s w.toNat := by
  simp only [readWord, Option.bind_eq_some_iff, readUnsigned_eq_some, word?_eq_some, exists_eq_right']

lemma numeral_ne_nil (n : Nat) : numeral n ≠ [] := Nat.toDigits_ne_nil

lemma asciiDigit_of_mem_numeral (hc : c ∈ numeral n) : c.isDigit = true :=
  Nat.isDigit_of_mem_toDigits (by decide) (by decide) hc

lemma isDigit_of_mem_numeral (hc : c ∈ numeral n) : isDigit c = true := by
  have hdigit := asciiDigit_of_mem_numeral hc
  simp only [Char.isDigit, Bool.and_eq_true, decide_eq_true_eq] at hdigit
  simp only [isDigit, inRanges, digitRanges, List.any_cons, Bool.or_eq_true, Bool.and_eq_true,
    decide_eq_true_eq]
  exact .inl hdigit

lemma readDigits_numeral (n : Nat) : readDigits 10 0 (numeral n) = some n :=
  readDigits_eq_some.mpr ⟨fun _ => asciiDigit_of_mem_numeral, Nat.ofDigitChars_ten_toDigits⟩

lemma isNumeral_numeral (n : Nat) : IsNumeral (numeral n) n :=
  ⟨[], numeral n, rfl, .inl rfl, numeral_ne_nil n, fun _ => asciiDigit_of_mem_numeral,
    Nat.ofDigitChars_ten_toDigits⟩

lemma eq_zero_of_head_numeral (h : (numeral n).head? = some '0') : n = 0 := by
  induction n using Nat.strongRecOn with
  | ind n ih =>
    by_cases hn : n < 10
    · rw [numeral, Nat.toDigits_of_lt_base hn] at h
      have hdigit : ∀ d : Fin 10, [d.val.digitChar].head? = some '0' → d.val = 0 := by decide
      exact hdigit ⟨n, hn⟩ h
    · have hdigits : numeral n = numeral (n / 10) ++ [(n % 10).digitChar] :=
        Nat.toDigits_of_base_le (by decide) (by omega)
      rw [hdigits, List.head?_append, Option.or_of_isSome (by simp [numeral_ne_nil])] at h
      have hzero := ih (n / 10) (by omega) h
      omega

lemma isDecimal_numeral (n : Nat) : IsDecimal (numeral n) n where
  nonempty := numeral_ne_nil n
  digits _ := asciiDigit_of_mem_numeral
  denotes := Nat.ofDigitChars_ten_toDigits
  no_leading_zero h := by
    rw [eq_zero_of_head_numeral h]
    rfl

lemma numeral_injective : Function.Injective numeral := by
  intro n other h
  have hvalue := (isDecimal_numeral n).denotes
  rw [h, (isDecimal_numeral other).denotes] at hvalue
  exact hvalue.symm

lemma readWord_numeral (n : UInt64) : readWord (numeral n.toNat) = some n :=
  readWord_eq_some.mpr (isNumeral_numeral n.toNat)

lemma le_ofDigitChars (digits : List Char) (value : Nat) : value ≤ Nat.ofDigitChars 10 digits value := by
  induction digits generalizing value with
  | nil => exact Nat.le_refl _
  | cons c digits ih =>
    rw [Nat.ofDigitChars_cons]
    exact Nat.le_trans (by omega) (ih _)

/-- A numeral that loses its last digits is one of a number that is not larger. -/
lemma readWord_of_cut (hne : s ≠ []) (h : s <+: numeral w.toNat) :
    ∃ less, readWord s = some less ∧ less ≤ w := by
  obtain ⟨lost, hlost⟩ := h
  have hvalue : Nat.ofDigitChars 10 s 0 ≤ w.toNat := calc
    Nat.ofDigitChars 10 s 0 ≤ Nat.ofDigitChars 10 lost (Nat.ofDigitChars 10 s 0) := le_ofDigitChars _ _
    _ = Nat.ofDigitChars 10 (numeral w.toNat) 0 := by rw [← hlost, Nat.ofDigitChars_append]
    _ = w.toNat := Nat.ofDigitChars_ten_toDigits
  have hword : (UInt64.ofNat (Nat.ofDigitChars 10 s 0)).toNat = Nat.ofDigitChars 10 s 0 :=
    UInt64.toNat_ofNat_of_lt' (Nat.lt_of_le_of_lt hvalue w.toNat_lt)
  have hdigits : ∀ c ∈ s, c.isDigit = true :=
    fun c hc => asciiDigit_of_mem_numeral (n := w.toNat) (by rw [← hlost]; exact List.mem_append_left _ hc)
  refine ⟨_, readWord_eq_some.mpr ⟨[], s, rfl, .inl rfl, hne, hdigits, hword.symm⟩, ?_⟩
  rwa [UInt64.le_iff_toNat_le, hword]

end LogicalVolumes.Text
