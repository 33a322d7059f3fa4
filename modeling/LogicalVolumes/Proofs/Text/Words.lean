import LogicalVolumes.Proofs.Text.Pieces
import LogicalVolumes.Text.Line
import LogicalVolumes.Text.Word
import Mathlib.Tactic.Lemma

/-! Lines, words between gaps of blanks, texts without the blanks around them, and the characters of a word. -/

namespace LogicalVolumes.Text

def IsGap (s : List Char) : Prop := s ≠ [] ∧ ∀ c ∈ s, isBlank c = true

def IsSolid (s : List Char) : Prop := s ≠ [] ∧ ∀ c ∈ s, isBlank c = false

def IsBreak (s : List Char) : Prop := ∀ c, s.head? = some c → isBlank c = true

lemma isGap_iff {s : List Char} : IsGap s ↔ (!s.isEmpty && s.all isBlank) = true := by
  simp [IsGap]

lemma isSolid_iff {s : List Char} : IsSolid s ↔ (!s.isEmpty && s.all fun c => !isBlank c) = true := by
  simp [IsSolid]

lemma isBreak_iff {s : List Char} : IsBreak s ↔ s.head?.all isBlank = true := by
  cases s <;> simp [IsBreak]

instance (s : List Char) : Decidable (IsGap s) := decidable_of_iff _ isGap_iff.symm

instance (s : List Char) : Decidable (IsSolid s) := decidable_of_iff _ isSolid_iff.symm

instance (s : List Char) : Decidable (IsBreak s) := decidable_of_iff _ isBreak_iff.symm

lemma inRanges_disjoint {a b : List (Nat × Nat)} (h : ∀ r ∈ a, ∀ s ∈ b, r.2 < s.1 ∨ s.2 < r.1) {c : Char}
    (hc : inRanges a c = true) : inRanges b c = false := by
  simp only [inRanges, List.any_eq_true, Bool.and_eq_true, decide_eq_true_eq] at hc
  obtain ⟨r, hr, hlow, hhigh⟩ := hc
  simp only [inRanges, List.any_eq_false, Bool.and_eq_true, decide_eq_true_eq]
  intro s hs
  have := h r hr s hs
  omega

lemma isDigit_of_blank {c : Char} (h : isBlank c = true) : isDigit c = false :=
  inRanges_disjoint (by decide +kernel) h

lemma isWord_of_blank {c : Char} (h : isBlank c = true) : isWord c = false := by
  have hword : inRanges wordRanges c = false := inRanges_disjoint (by decide +kernel) h
  rw [isWord, isDigit_of_blank h, hword, Bool.or_self]

lemma isBlank_of_word {c : Char} (h : isWord c = true) : isBlank c = false := by
  cases hb : isBlank c with
  | false => rfl
  | true => exact absurd h (by simp [isWord_of_blank hb])

section

variable {p : Char → Bool} {s t : List Char}

lemma takeWhile_append (h : ∀ c ∈ s, p c = true) (ht : ∀ c, t.head? = some c → p c = false) :
    (s ++ t).takeWhile p = s := by
  rw [List.takeWhile_append_of_pos h]
  cases t with
  | nil => simp
  | cons c t => simp [ht c rfl]

lemma dropWhile_append (h : ∀ c ∈ s, p c = true) (ht : ∀ c, t.head? = some c → p c = false) :
    (s ++ t).dropWhile p = t := by
  rw [List.dropWhile_append_of_pos h]
  cases t with
  | nil => simp
  | cons c t => simp [ht c rfl]

lemma takeWhile_trail (ht : ∀ c ∈ t, p c = false) (s : List Char) : (s ++ t).takeWhile p = s.takeWhile p := by
  have hnone : t.takeWhile p = [] :=
    takeWhile_append (s := []) (by simp) fun c hc => ht c (List.mem_of_mem_head? hc)
  rw [List.takeWhile_append, hnone, List.append_nil]
  split
  · next hlength => exact (List.takeWhile_prefix p).eq_of_length hlength |>.symm
  · rfl

lemma dropWhile_trail (ht : ∀ c ∈ t, p c = false) (s : List Char) :
    (s ++ t).dropWhile p = s.dropWhile p ++ t := by
  have hall : t.dropWhile p = t :=
    dropWhile_append (s := []) (by simp) fun c hc => ht c (List.mem_of_mem_head? hc)
  rw [List.dropWhile_append, hall]
  split
  · next hempty => rw [List.isEmpty_iff.mp hempty, List.nil_append]
  · rfl

end

/-- `t` is the text without the blanks around it. -/
structure IsTrimmed (t text : List Char) : Prop where
  parts : ∃ before after, text = before ++ (t ++ after) ∧ (∀ c ∈ before, isBlank c = true) ∧
    ∀ c ∈ after, isBlank c = true
  first : ∀ c, t.head? = some c → isBlank c = false
  last : ∀ c, t.getLast? = some c → isBlank c = false

lemma trimStart_split (s : List Char) : ∃ before, s = before ++ trimStart s ∧
    (∀ c ∈ before, isBlank c = true) ∧ ∀ c, (trimStart s).head? = some c → isBlank c = false := by
  refine ⟨s.takeWhile isBlank, List.takeWhile_append_dropWhile.symm, List.all_eq_true.mp List.all_takeWhile, ?_⟩
  intro c hc
  rw [trimStart] at hc
  simpa [hc] using List.head?_dropWhile_not isBlank s

lemma isTrimmed_trim (s : List Char) : IsTrimmed (trim s) s := by
  obtain ⟨before, hstart, hbefore, hfirst⟩ := trimStart_split s
  obtain ⟨after, hend, hafter, hlast⟩ := trimStart_split (trimStart s).reverse
  have hkept : trimStart s = trim s ++ after.reverse := by
    have hreverse := congrArg List.reverse hend
    rwa [List.reverse_reverse, List.reverse_append] at hreverse
  refine ⟨⟨before, after.reverse, hkept ▸ hstart, hbefore, fun c hc => hafter c (List.mem_reverse.mp hc)⟩, ?_, ?_⟩
  · intro c hc
    exact hfirst c (by rw [hkept, List.head?_append, hc]; rfl)
  · intro c hc
    refine hlast c ?_
    rwa [trim, trimEnd, List.getLast?_reverse] at hc

variable {gap s t : List Char}

lemma lines_append_cons (hs : ∀ c ∈ s, c ≠ '\n') (t : List Char) :
    lines (s ++ '\n' :: t) = dropReturn s :: lines t := by
  have hpieces : pieces (· == '\n') s = [s] := pieces_of_none fun c hc => by simpa using hs c hc
  rw [lines, pieces_append_cons (by decide), hpieces, lines]
  cases hrest : pieces (· == '\n') t with
  | nil => exact absurd hrest (pieces_ne_nil t)
  | cons w ws => rfl

lemma dropReturn_of_last (hs : s.getLast? ≠ some '\r') : dropReturn s = s := by
  rw [dropReturn, if_neg hs]

lemma words_append_cons {c : Char} (hc : isBlank c = true) (s t : List Char) :
    words (s ++ c :: t) = words s ++ words t := by
  rw [words, pieces_append_cons hc, List.filter_append, words, words]

lemma words_blank_append (hgap : ∀ c ∈ gap, isBlank c = true) (t : List Char) :
    words (gap ++ t) = words t := by
  induction gap with
  | nil => rfl
  | cons c gap ih =>
    have hc : words (c :: (gap ++ t)) = words [] ++ words (gap ++ t) :=
      words_append_cons (hgap c (by simp)) [] (gap ++ t)
    rw [List.cons_append, hc, ih fun d hd => hgap d (by simp [hd])]
    rfl

lemma words_gap (hgap : IsGap gap) (s t : List Char) : words (s ++ (gap ++ t)) = words s ++ words t := by
  obtain ⟨hne, hblank⟩ := hgap
  cases gap with
  | nil => exact absurd rfl hne
  | cons c gap =>
    rw [List.cons_append, words_append_cons (hblank c (by simp)),
      words_blank_append fun d hd => hblank d (by simp [hd])]

lemma words_solid (hs : IsSolid s) : words s = [s] := by
  rw [words, pieces_of_none hs.2]
  simp [hs.1]

lemma words_solid_gap (hs : IsSolid s) (hgap : IsGap gap) (t : List Char) :
    words (s ++ (gap ++ t)) = s :: words t := by
  rw [words_gap hgap, words_solid hs, List.singleton_append]

lemma words_two_one_two {space gap₁ gap₂ gap₃ w₂ w₃ w₄ w₅ : List Char} (hspace : IsGap space)
    (h₁ : IsGap gap₁) (h₂ : IsGap gap₂) (h₃ : IsGap gap₃) (hw₂ : IsSolid w₂) (hw₃ : IsSolid w₃)
    (hw₄ : IsSolid w₄) (hw₅ : IsSolid w₅) (before w₁ tail : List Char) :
    words (before ++ ((w₁ ++ (space ++ w₂)) ++ (gap₁ ++ (w₃ ++ (gap₂ ++
      ((w₄ ++ (space ++ w₅)) ++ (gap₃ ++ tail))))))) =
      words (before ++ w₁) ++ w₂ :: w₃ :: w₄ :: w₅ :: words tail := by
  simp only [List.append_assoc]
  rw [← List.append_assoc before, words_gap hspace, words_solid_gap hw₂ h₁, words_solid_gap hw₃ h₂,
    words_solid_gap hw₄ hspace, words_solid_gap hw₅ h₃]

lemma words_solid_blank (hs : IsSolid s) (ht : ∀ c ∈ t, isBlank c = true) : words (s ++ t) = [s] := by
  cases t with
  | nil => rw [List.append_nil, words_solid hs]
  | cons c t =>
    have hblank : ∀ d ∈ t, isBlank d = true := fun d hd => ht d (by simp [hd])
    have hrest := words_blank_append hblank []
    rw [List.append_nil] at hrest
    rw [words_append_cons (ht c (by simp)), words_solid hs, hrest]
    rfl

lemma words_cons {c : Char} (hc : isBlank c = false) (s : List Char) :
    ∃ w ws, words (c :: s) = (c :: w) :: ws := by
  cases hs : pieces isBlank s with
  | nil => exact absurd hs (pieces_ne_nil s)
  | cons w ws => exact ⟨w, ws.filter (fun w => !w.isEmpty), by simp [words, pieces, hc, hs]⟩

lemma words_ne_nil {c : Char} (hs : c ∈ s) (hc : isBlank c = false) : words s ≠ [] := by
  induction s with
  | nil => simp at hs
  | cons d s ih =>
    cases hd : isBlank d with
    | false =>
      obtain ⟨w, ws, hw⟩ := words_cons hd s
      simp [hw]
    | true =>
      have hmem : c ∈ s := by
        rcases List.mem_cons.mp hs with rfl | hs
        · simp [hc] at hd
        · exact hs
      have hwords : words (d :: s) = words [] ++ words s := words_append_cons hd [] s
      simpa [hwords] using fun _ => ih hmem

end LogicalVolumes.Text
