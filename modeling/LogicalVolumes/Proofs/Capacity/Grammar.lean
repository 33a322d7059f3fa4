import LogicalVolumes.Capacity
import LogicalVolumes.Proofs.Number.Word
import LogicalVolumes.Proofs.Text.Numeral
import LogicalVolumes.Proofs.Text.Words
import Mathlib.Algebra.Ring.Nat
import Mathlib.Data.List.Basic

/-! How a size is written: a numeral and the letter of a unit. Each text is read as the size that it writes, or
refused for its unit or for its number. -/

namespace LogicalVolumes

open Number Text

/-- The letters of each unit, which is 1024 times the one before. -/
def unitLetters : List (List Char) := ["Mm".toList, "Gg".toList, "Tt".toList]

/-- The letter stands for this power of 1024 megabytes. -/
def IsUnitLetter (power : Nat) (letter : Char) : Prop :=
  ∃ letters, unitLetters[power]? = some letters ∧ letter ∈ letters

/-- No number above zero that `number` writes gives so many units within a word. -/
def OutOfRange (number : List Char) (power : Nat) : Prop :=
  ∀ value, IsNumeral number value → value = 0 ∨ UInt64.size ≤ value * 1024 ^ power

inductive SizeReading (size : List Char) : Except Fault Megabytes → Prop
  | nothing : size = [] → SizeReading size (.error (.invalidSize (String.ofList size)))
  | otherUnit {number : List Char} {letter : Char} : size = number ++ [letter] →
      (∀ power, ¬ IsUnitLetter power letter) → SizeReading size (.error (.unknownUnit (String.ofList size)))
  | noSize {number : List Char} {letter : Char} {power : Nat} : size = number ++ [letter] →
      IsUnitLetter power letter → OutOfRange number power →
      SizeReading size (.error (.invalidSize (String.ofList size)))
  | inRange {number : List Char} {letter : Char} {power value : Nat} {result : Megabytes} :
      size = number ++ [letter] → IsUnitLetter power letter → IsNumeral number value → 0 < value →
      result.toNat = value * 1024 ^ power → SizeReading size (.ok result)

/-- The last byte of `whole` is a character, and `rest` is the text without it. -/
def CutsLastByte (rest whole : String) : Prop :=
  String.Pos.Raw.IsValid whole ⟨whole.utf8ByteSize - 1⟩ ∧
    whole.toByteArray.extract 0 (whole.utf8ByteSize - 1) = rest.toByteArray

/-- How a text is read, with `size` for what is left of it without the blanks around it. -/
structure ReadsSize (text : String) (size : List Char) : Prop where
  trimmed : IsTrimmed size text.toList
  accepted : ∀ result, convertSize text = .ok result ↔ ∃ number letter power value,
    size = number ++ [letter] ∧ IsUnitLetter power letter ∧ IsNumeral number value ∧ 0 < value ∧
      value < UInt64.size ∧ result.toNat = value * 1024 ^ power
  unit_refused : ∀ shown, convertSize text = .error (.unknownUnit shown) ↔
    shown = String.ofList size ∧ ∃ number letter, size = number ++ [letter] ∧
      ∀ power, ¬ IsUnitLetter power letter
  number_refused : ∀ shown, convertSize text = .error (.invalidSize shown) ↔
    shown = String.ofList size ∧ (size = [] ∨ ∃ number letter power, size = number ++ [letter] ∧
      IsUnitLetter power letter ∧ OutOfRange number power)
  no_other_fault : ∀ fault, convertSize text = .error fault →
    fault = .unknownUnit (String.ofList size) ∨ fault = .invalidSize (String.ofList size)
  cut : ∀ number letter power, size = number ++ [letter] → IsUnitLetter power letter →
    CutsLastByte (String.ofList number) (String.ofList size)

namespace SizeUnit

def power : SizeUnit → Nat
  | .mega => 0
  | .giga => 1
  | .tera => 2

lemma toNat_factor (unit : SizeUnit) : unit.factor.toNat = 1024 ^ unit.power := by
  cases unit <;> rfl

variable {letter : Char} {unit : SizeUnit} {n : Nat}

lemma ofLetter?_eq_some : ofLetter? letter = some unit ↔ IsUnitLetter unit.power letter := by
  have hmega : IsUnitLetter 0 letter ↔ letter = 'M' ∨ letter = 'm' := by simp [IsUnitLetter, unitLetters]
  have hgiga : IsUnitLetter 1 letter ↔ letter = 'G' ∨ letter = 'g' := by simp [IsUnitLetter, unitLetters]
  have htera : IsUnitLetter 2 letter ↔ letter = 'T' ∨ letter = 't' := by simp [IsUnitLetter, unitLetters]
  unfold ofLetter?
  split
  · next h => rcases h with rfl | rfl <;> cases unit <;> simp [power, hmega, hgiga, htera]
  split
  · next h => rcases h with rfl | rfl <;> cases unit <;> simp [power, hmega, hgiga, htera]
  split
  · next h => rcases h with rfl | rfl <;> cases unit <;> simp [power, hmega, hgiga, htera]
  · next hm hg ht => cases unit <;> simp [power, hmega, hgiga, htera, hm, hg, ht]

lemma exists_power (h : IsUnitLetter n letter) : ∃ unit : SizeUnit, unit.power = n := by
  obtain ⟨letters, hletters, _⟩ := h
  have hn : n < 3 := (List.getElem?_eq_some_iff.mp hletters).1
  match n, hn with
  | 0, _ => exact ⟨.mega, rfl⟩
  | 1, _ => exact ⟨.giga, rfl⟩
  | 2, _ => exact ⟨.tera, rfl⟩

lemma ofLetter?_eq_none : ofLetter? letter = none ↔ ∀ n, ¬ IsUnitLetter n letter := by
  simp only [Option.eq_none_iff_forall_ne_some, ne_eq, ofLetter?_eq_some]
  constructor
  · intro h n hletter
    obtain ⟨unit, rfl⟩ := exists_power hletter
    exact h unit hletter
  · exact fun h unit => h unit.power

end SizeUnit

section

variable {letter : Char} {power : Nat}

lemma IsUnitLetter.utf8Size_eq_one (h : IsUnitLetter power letter) : letter.utf8Size = 1 := by
  obtain ⟨letters, hletters, hmem⟩ := h
  have hall : (unitLetters.flatten.all fun c => c.utf8Size = 1) = true := by decide
  have hflat := List.mem_flatten_of_mem (List.mem_of_getElem? hletters) hmem
  exact of_decide_eq_true (List.all_eq_true.mp hall letter hflat)

lemma cutsLastByte (number : List Char) (h : letter.utf8Size = 1) :
    CutsLastByte (String.ofList number) (String.ofList (number ++ [letter])) := by
  have hbytes : (String.ofList (number ++ [letter])).utf8ByteSize - 1 =
      (String.ofList number).utf8ByteSize := by
    simp [String.ofList_append, h]
  -- the letter is one byte, so `number` ends right before the last one
  constructor
  · rw [String.Pos.Raw.isValid_iff_exists_append]
    exact ⟨String.ofList number, String.ofList [letter], String.ofList_append, by rw [hbytes]; rfl⟩
  · rw [hbytes, String.ofList_append, String.toByteArray_append]
    exact ByteArray.extract_append_eq_left rfl

end

def scaled? (number : List Char) (unit : SizeUnit) : Option Megabytes :=
  (readWord number).bind fun value => if value = 0 then none else product? value unit.factor

section

variable {number : List Char} {unit : SizeUnit} {result : Megabytes}

lemma scaled?_eq_some : scaled? number unit = some result ↔
    ∃ value, IsNumeral number value ∧ 0 < value ∧ result.toNat = value * 1024 ^ unit.power := by
  simp only [scaled?, Option.bind_eq_some_iff, readWord_eq_some]
  constructor
  · rintro ⟨value, hnumber, h⟩
    split at h
    · cases h
    · next hne =>
      have hpos : 0 < value.toNat := UInt64.lt_iff_toNat_lt.mp (UInt64.pos_iff_ne_zero.mpr hne)
      rw [product?_eq, word?_eq_some, SizeUnit.toNat_factor] at h
      exact ⟨value.toNat, hnumber, hpos, h⟩
  · rintro ⟨value, hnumber, hpos, hresult⟩
    -- the number is not above its own multiple, which a word holds
    have hle : value ≤ value * 1024 ^ unit.power := Nat.le_mul_of_pos_right _ (Nat.pow_pos (by decide))
    obtain ⟨word, -, rfl⟩ := word?_of_lt (Nat.lt_of_le_of_lt hle (hresult ▸ result.toNat_lt_size))
    have hne : word ≠ 0 := UInt64.pos_iff_ne_zero.mp (UInt64.lt_iff_toNat_lt.mpr hpos)
    refine ⟨word, hnumber, ?_⟩
    rw [if_neg hne, product?_eq, word?_eq_some, SizeUnit.toNat_factor, hresult]

lemma scaled?_eq_none : scaled? number unit = none ↔ OutOfRange number unit.power := by
  simp only [Option.eq_none_iff_forall_ne_some, ne_eq, scaled?_eq_some]
  constructor
  · intro h value hnumber
    refine or_iff_not_imp_left.mpr fun hne => Nat.le_of_not_lt fun hlt => ?_
    obtain ⟨result, -, hresult⟩ := word?_of_lt hlt
    exact h result ⟨value, hnumber, Nat.pos_of_ne_zero hne, hresult⟩
  · rintro h result ⟨value, hnumber, hpos, hresult⟩
    rcases h value hnumber with hzero | hsize
    · omega
    · have := result.toNat_lt_size
      omega

end

variable {text : String} {number : List Char} {letter : Char} {result : Except Fault Megabytes}

lemma convertSize_of_empty (h : trim text.toList = []) :
    convertSize text = .error (.invalidSize (String.ofList (trim text.toList))) := by
  rw [convertSize, h]
  rfl

lemma convertSize_of_otherUnit (h : trim text.toList = number ++ [letter])
    (hletter : SizeUnit.ofLetter? letter = none) :
    convertSize text = .error (.unknownUnit (String.ofList (trim text.toList))) := by
  simp only [convertSize, h, List.getLast?_concat, hletter]

lemma convertSize_of_unit {unit : SizeUnit} (h : trim text.toList = number ++ [letter])
    (hletter : SizeUnit.ofLetter? letter = some unit) :
    convertSize text =
      (scaled? number unit).elim (.error (.invalidSize (String.ofList (trim text.toList)))) .ok := by
  simp only [convertSize, h, List.getLast?_concat, hletter, List.dropLast_concat, scaled?]
  cases readWord number with
  | none => rfl
  | some value =>
    simp only [Option.bind_some]
    split
    · rfl
    · cases product? value unit.factor <;> rfl

lemma convertSize_reads (text : String) : SizeReading (trim text.toList) (convertSize text) := by
  rcases List.eq_nil_or_concat' (trim text.toList) with hempty | ⟨number, letter, hsize⟩
  · exact convertSize_of_empty hempty ▸ .nothing hempty
  · cases hletter : SizeUnit.ofLetter? letter with
    | none =>
      exact convertSize_of_otherUnit hsize hletter ▸ .otherUnit hsize (SizeUnit.ofLetter?_eq_none.mp hletter)
    | some unit =>
      rw [convertSize_of_unit hsize hletter]
      rw [SizeUnit.ofLetter?_eq_some] at hletter
      cases hscaled : scaled? number unit with
      | none => exact .noSize hsize hletter (scaled?_eq_none.mp hscaled)
      | some result =>
        obtain ⟨value, hnumber, hpos, hresult⟩ := scaled?_eq_some.mp hscaled
        exact .inRange hsize hletter hnumber hpos hresult

lemma convertSize_iff : convertSize text = result ↔ SizeReading (trim text.toList) result := by
  constructor
  · rintro rfl
    exact convertSize_reads text
  · intro h
    cases h with
    | nothing hempty => exact convertSize_of_empty hempty
    | otherUnit hsize hother => exact convertSize_of_otherUnit hsize (SizeUnit.ofLetter?_eq_none.mpr hother)
    | noSize hsize hletter hrange =>
      obtain ⟨unit, rfl⟩ := SizeUnit.exists_power hletter
      rw [convertSize_of_unit hsize (SizeUnit.ofLetter?_eq_some.mpr hletter), scaled?_eq_none.mpr hrange]
      rfl
    | inRange hsize hletter hnumber hpos hresult =>
      obtain ⟨unit, rfl⟩ := SizeUnit.exists_power hletter
      rw [convertSize_of_unit hsize (SizeUnit.ofLetter?_eq_some.mpr hletter),
        scaled?_eq_some.mpr ⟨_, hnumber, hpos, hresult⟩]
      rfl

lemma convertSize_pos {size : Megabytes} (h : convertSize text = .ok size) : 0 < size := by
  cases convertSize_iff.mp h with
  | inRange _ _ _ hpos hresult =>
    rw [UInt64.lt_iff_toNat_lt, hresult]
    exact Nat.mul_pos hpos (Nat.pow_pos (by decide))

lemma convertSize_error {fault : Fault} (h : convertSize text = .error fault) :
    fault = .unknownUnit (String.ofList (trim text.toList)) ∨
      fault = .invalidSize (String.ofList (trim text.toList)) := by
  cases convertSize_iff.mp h with
  | nothing => exact .inr rfl
  | otherUnit => exact .inl rfl
  | noSize => exact .inr rfl

theorem sizes_read_by_grammar (text : String) : ReadsSize text (trim text.toList) where
  trimmed := isTrimmed_trim text.toList
  accepted result := by
    rw [convertSize_iff]
    constructor
    · intro h
      cases h with
      | @inRange number letter power value _ hsize hletter hnumber hpos hresult =>
        have hle : value ≤ value * 1024 ^ power := Nat.le_mul_of_pos_right _ (Nat.pow_pos (by decide))
        exact ⟨number, letter, power, value, hsize, hletter, hnumber, hpos,
          Nat.lt_of_le_of_lt hle (hresult ▸ result.toNat_lt_size), hresult⟩
    · rintro ⟨number, letter, power, value, hsize, hletter, hnumber, hpos, -, hresult⟩
      exact .inRange hsize hletter hnumber hpos hresult
  unit_refused shown := by
    rw [convertSize_iff]
    constructor
    · intro h
      cases h with
      | otherUnit hsize hother => exact ⟨rfl, _, _, hsize, hother⟩
    · rintro ⟨rfl, number, letter, hsize, hother⟩
      exact .otherUnit hsize hother
  number_refused shown := by
    rw [convertSize_iff]
    constructor
    · intro h
      cases h with
      | nothing hempty => exact ⟨rfl, .inl hempty⟩
      | noSize hsize hletter hrange => exact ⟨rfl, .inr ⟨_, _, _, hsize, hletter, hrange⟩⟩
    · rintro ⟨rfl, hempty | ⟨number, letter, power, hsize, hletter, hrange⟩⟩
      · exact .nothing hempty
      · exact .noSize hsize hletter hrange
  no_other_fault _ h := convertSize_error h
  cut number letter power hsize hletter := by
    rw [hsize]
    exact cutsLastByte number hletter.utf8Size_eq_one

/-- A sign, leading zeros and blanks around are accepted, and a no-break space is a blank. -/
example : convertSize "\u00a0+012g\n" = .ok 12288 ∧ convertSize "1 2G" = .error (.invalidSize "1 2G") := by
  decide +kernel

end LogicalVolumes
