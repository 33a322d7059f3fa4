import LogicalVolumes.Json.Print
import LogicalVolumes.Json.Read
import LogicalVolumes.Proofs.Text.Numeral
import LogicalVolumes.Proofs.Text.Words

/-! Strings and whole numbers as they are written are read back, whatever follows them. -/

namespace LogicalVolumes.Json

open LogicalVolumes.Text

variable {c : Char} {done s rest : List Char} {fuel bound value n : Nat} {i : Int}

section Strings

lemma toNat_lt_of_control (hc : c < ' ') : c.toNat < 32 := hc

lemma readEscapedCode_control (hc : c < ' ') (s : List Char) :
    readEscapedCode ('0' :: '0' :: hexDigit (c.toNat / 16) :: hexDigit c.toNat :: s) = some (c, s) := by
  have hcode := toNat_lt_of_control hc
  have hdigits : ∀ n : Fin 32,
      readDigits 16 0 ['0', '0', hexDigit (n.val / 16), hexDigit n.val] = some n.val := by decide
  have hhigh : ¬ 0xD800 ≤ c.toNat := by omega
  have hlow : ¬ 0xDC00 ≤ c.toNat := by omega
  simp [readEscapedCode, readUnit, hdigits ⟨c.toNat, hcode⟩, hhigh, hlow]

lemma readTextRest_control (hc : c < ' ') (done s : List Char) :
    readTextRest (fuel + 1) done
      ('\\' :: 'u' :: '0' :: '0' :: hexDigit (c.toNat / 16) :: hexDigit c.toNat :: s) =
      readTextRest fuel (c :: done) s := by
  simp [readTextRest, readEscapedCode_control hc]

lemma readTextRest_plain (hquote : c ≠ '"') (hescape : c ≠ '\\') (hc : ¬ c < ' ') (done s : List Char) :
    readTextRest (fuel + 1) done (c :: s) = readTextRest fuel (c :: done) s := by
  rw [readTextRest.eq_6 _ _ _ _ hquote (fun _ h _ => hescape h) (fun _ _ h _ => hescape h), if_neg hc]

/-- One character of a string is read from whatever it is written as. -/
lemma readTextRest_escape (c : Char) (done s : List Char) :
    readTextRest (fuel + 1) done (escapeCharacter c ++ s) = readTextRest fuel (c :: done) s := by
  unfold escapeCharacter
  split
  · next hc => subst hc; rfl
  split
  · next hc => subst hc; rfl
  split
  · next hc => subst hc; rfl
  split
  · next hc => subst hc; rfl
  split
  · next hc => subst hc; rfl
  split
  · next hc => subst hc; rfl
  split
  · next hc => subst hc; rfl
  split
  · next hc => exact readTextRest_control hc done s
  · next hquote hescape _ _ _ _ _ hc => exact readTextRest_plain hquote hescape hc done s

lemma escapeCharacter_ne_nil (c : Char) : escapeCharacter c ≠ [] := by
  unfold escapeCharacter
  repeat' split
  all_goals simp

lemma length_le_escaped (s : List Char) : s.length ≤ (s.flatMap escapeCharacter).length := by
  induction s with
  | nil => simp
  | cons c s ih =>
    have hpos := List.length_pos_iff.mpr (escapeCharacter_ne_nil c)
    rw [List.flatMap_cons, List.length_cons, List.length_append]
    omega

lemma readTextRest_escaped (hfuel : s.length < fuel) (done rest : List Char) :
    readTextRest fuel done (s.flatMap escapeCharacter ++ '"' :: rest) =
      some (String.ofList (done.reverse ++ s), rest) := by
  induction s generalizing fuel done with
  | nil =>
    obtain ⟨fuel, rfl⟩ := Nat.exists_eq_succ_of_ne_zero (Nat.ne_of_gt hfuel)
    simp [readTextRest]
  | cons c s ih =>
    obtain ⟨fuel, rfl⟩ := Nat.exists_eq_succ_of_ne_zero (Nat.ne_zero_of_lt hfuel)
    have hrest := ih (Nat.lt_of_succ_lt_succ hfuel) (c :: done)
    rw [List.flatMap_cons, List.append_assoc, readTextRest_escape, hrest, List.reverse_cons,
      List.append_assoc, List.singleton_append]

lemma readText_literal (text : String) (rest : List Char) :
    readText (textLiteral text.toList ++ rest) = some (text, rest) := by
  have hlength := length_le_escaped text.toList
  have hfuel : text.toList.length < (text.toList.flatMap escapeCharacter ++ '"' :: rest).length + 1 := by
    rw [List.length_append]
    omega
  have hread := readTextRest_escaped hfuel [] rest
  rw [textLiteral, List.cons_append, List.cons_append, List.append_assoc, List.singleton_append, readText, hread,
    List.reverse_nil, List.nil_append, String.ofList_toList]

end Strings

section Numbers

/-- What cannot go on a whole number that it follows. -/
def EndsNumber (s : List Char) : Prop :=
  ∀ c, s.head? = some c → isAsciiDigit c = false ∧ c ≠ '.' ∧ c ≠ 'e' ∧ c ≠ 'E'

lemma readFraction_none (h : EndsNumber s) : readFraction s = some ([], s) := by
  apply readFraction.eq_2
  rintro t rfl
  exact (h '.' rfl).2.1 rfl

lemma readExponent_none (h : EndsNumber s) : readExponent s = some (none, s) := by
  cases s with
  | nil => rfl
  | cons c s =>
    obtain ⟨_, _, hsmall, hlarge⟩ := h c rfl
    rw [readExponent.eq_def]
    simp [hsmall, hlarge]

lemma le_of_readDigits (h : readDigits 10 value s = some n) : value ≤ n := by
  induction s generalizing value with
  | nil => exact Nat.le_of_eq (by simpa [readDigits] using h)
  | cons c s ih =>
    obtain ⟨d, _, hd⟩ := Option.bind_eq_some_iff.mp h
    have hle := ih hd
    omega

lemma readDigitsBelow_eq (hread : readDigits 10 value s = some n) (hn : n < bound) :
    readDigitsBelow bound value s = (n, []) := by
  induction s generalizing value with
  | nil =>
    have hvalue : value = n := by simpa [readDigits] using hread
    rw [readDigitsBelow, hvalue]
  | cons c s ih =>
    obtain ⟨d, hdigit, hd⟩ := Option.bind_eq_some_iff.mp hread
    have hbelow : value * 10 + d < bound := Nat.lt_of_le_of_lt (le_of_readDigits hd) hn
    simp only [readDigitsBelow, hdigit, if_pos hbelow]
    exact ih hd

lemma isAsciiDigit_of_mem_numeral (hc : c ∈ numeral n) : isAsciiDigit c = true :=
  asciiDigit_of_mem_numeral hc

lemma readUnsignedNumber_numeral (negative : Bool) (hn : n < 0x10000000000000000) (hrest : EndsNumber rest) :
    readUnsignedNumber negative (numeral n ++ rest) = (integer? negative n).map (·, rest) := by
  have hdigits : ∀ c ∈ numeral n, isAsciiDigit c = true := fun _ => isAsciiDigit_of_mem_numeral
  have hend : ∀ c, rest.head? = some c → isAsciiDigit c = false := fun c hc => (hrest c hc).1
  have hwhole : ¬ ((numeral n).isEmpty = true ∨ (numeral n).length > 1 ∧ (numeral n).head? = some '0') := by
    rintro (hempty | ⟨hlong, hzero⟩)
    · exact numeral_ne_nil n (List.isEmpty_iff.mp hempty)
    · rw [eq_zero_of_head_numeral hzero] at hlong
      exact absurd hlong (by decide)
  have hnumber : numberOf negative (numeral n) [] none = integer? negative n := by
    have hvalue : readDigitsBelow UInt64.size 0 (numeral n) = (n, []) :=
      readDigitsBelow_eq (readDigits_numeral n) hn
    simp [numberOf, hvalue]
  simp only [readUnsignedNumber, takeWhile_append hdigits hend, dropWhile_append hdigits hend, if_neg hwhole,
    readFraction_none hrest, readExponent_none hrest, hnumber, Option.bind_eq_bind, Option.bind_some]
  cases integer? negative n <;> rfl

lemma readNumber_signedNumeral (hlow : -0x8000000000000000 ≤ i) (hhigh : i < 0x10000000000000000)
    (hrest : EndsNumber rest) : readNumber (signedNumeral i ++ rest) = some (.integer i, rest) := by
  by_cases hi : i < 0
  · have hbound : i.natAbs ≤ 0x8000000000000000 := by omega
    have hnegative : -(i.natAbs : Int) = i := by omega
    have hvalue : integer? true i.natAbs = some (.integer i) := by
      have hfits : ¬ (i.natAbs = 0 ∨ Nat.pow 2 63 < i.natAbs) := by
        rintro (hzero | hlarge)
        · omega
        · exact Nat.not_le_of_lt hlarge hbound
      rw [integer?, if_neg (by decide), if_neg hfits, hnegative]
    rw [signedNumeral, if_pos hi, List.cons_append, readNumber,
      readUnsignedNumber_numeral true (by omega) hrest, hvalue]
    rfl
  · have hpositive : (i.natAbs : Int) = i := by omega
    rw [signedNumeral, if_neg hi, readNumber.eq_2,
      readUnsignedNumber_numeral false (by omega) hrest]
    · simp [integer?, hpositive]
    · intro t ht
      have hsign : '-' ∈ numeral i.natAbs := by
        cases hs : numeral i.natAbs with
        | nil => exact absurd hs (numeral_ne_nil _)
        | cons c s =>
          rw [hs] at ht
          simp [(List.cons.inj ht).1]
      exact absurd (isAsciiDigit_of_mem_numeral hsign) (by decide)

end Numbers

end LogicalVolumes.Json
