import LogicalVolumes.Text.Blank
import Mathlib.Tactic.Lemma

/-! The pieces of a text between its separators, and the text as its pieces joined again. -/

namespace LogicalVolumes.Text

structure IsJoin (separator : Char) (parts : List (List Char)) (text : List Char) : Prop where
  joined : [separator].intercalate parts = text
  nonempty : parts ≠ []
  plain : ∀ part ∈ parts, separator ∉ part

variable {p : Char → Bool} {separator : Char} {parts : List (List Char)} {w s t : List Char}

lemma pieces_eq_splitOnP (s : List Char) : pieces p s = s.splitOnP p := by
  induction s with
  | nil => rw [List.splitOnP_nil, pieces]
  | cons c s ih =>
    rw [pieces, ih, List.splitOnP_cons_eq_if_modifyHead]
    split
    · rfl
    · cases hs : s.splitOnP p with
      | nil => exact absurd hs (List.splitOnP_ne_nil p s)
      | cons w ws => rfl

lemma pieces_ne_nil (s : List Char) : pieces p s ≠ [] := by
  rw [pieces_eq_splitOnP]
  exact List.splitOnP_ne_nil p s

lemma pieces_append_cons {c : Char} (hc : p c = true) (s t : List Char) :
    pieces p (s ++ c :: t) = pieces p s ++ pieces p t := by
  simp only [pieces_eq_splitOnP]
  exact List.splitOnP_append_cons s t hc

lemma pieces_of_none (h : ∀ c ∈ s, p c = false) : pieces p s = [s] := by
  rw [pieces_eq_splitOnP]
  exact List.splitOnP_eq_singleton h

lemma pieces_cons {c : Char} (hc : p c = false) (s : List Char) :
    ∃ w ws, pieces p s = w :: ws ∧ pieces p (c :: s) = (c :: w) :: ws := by
  obtain ⟨w, ws, hs⟩ := List.exists_cons_of_ne_nil (pieces_ne_nil (p := p) s)
  exact ⟨w, ws, hs, by simp [pieces, hc, hs]⟩

lemma not_of_mem_pieces (hw : w ∈ pieces p s) : ∀ c ∈ w, p c = false := by
  induction s generalizing w with
  | nil =>
    obtain rfl : w = [] := by simpa [pieces] using hw
    simp
  | cons c s ih =>
    cases hc : p c with
    | true =>
      obtain rfl | hw : w = [] ∨ w ∈ pieces p s := by simpa [pieces, hc] using hw
      · simp
      · exact ih hw
    | false =>
      obtain ⟨v, vs, hs, hpieces⟩ := pieces_cons hc s
      rw [hs] at ih
      rw [hpieces] at hw
      rcases List.mem_cons.mp hw with rfl | hw
      · exact List.forall_mem_cons.mpr ⟨hc, ih List.mem_cons_self⟩
      · exact ih (List.mem_cons_of_mem v hw)

lemma isJoin_pieces (separator : Char) (s : List Char) : IsJoin separator (pieces (· == separator) s) s where
  joined := by
    rw [pieces_eq_splitOnP, ← List.splitOn_eq_splitOnP]
    exact List.intercalate_splitOn separator
  nonempty := pieces_ne_nil s
  plain part hpart hmem := absurd (not_of_mem_pieces hpart separator hmem) (by simp)

lemma IsJoin.eq_pieces (h : IsJoin separator parts s) : parts = pieces (· == separator) s := by
  rw [pieces_eq_splitOnP, ← List.splitOn_eq_splitOnP, ← h.joined]
  exact (List.splitOn_intercalate separator h.plain h.nonempty).symm

/-- A text that stands before the first separator belongs to the first piece. -/
lemma pieces_plain_append (h : ∀ c ∈ t, p c = false) (s : List Char) :
    ∃ w ws, pieces p s = w :: ws ∧ pieces p (t ++ s) = (t ++ w) :: ws := by
  induction t with
  | nil =>
    obtain ⟨w, ws, hs⟩ := List.exists_cons_of_ne_nil (pieces_ne_nil (p := p) s)
    exact ⟨w, ws, hs, hs⟩
  | cons c t ih =>
    obtain ⟨hc, ht⟩ := List.forall_mem_cons.mp h
    obtain ⟨w, ws, hs, hts⟩ := ih ht
    obtain ⟨v, vs, hv, hcv⟩ := pieces_cons hc (t ++ s)
    obtain ⟨rfl, rfl⟩ : v = t ++ w ∧ vs = ws := by simpa [hts, eq_comm] using hv
    exact ⟨w, vs, hs, hcv⟩

lemma pieces_append_plain (h : ∀ c ∈ t, p c = false) (s : List Char) :
    ∃ ws w, pieces p s = ws ++ [w] ∧ pieces p (s ++ t) = ws ++ [w ++ t] := by
  induction s with
  | nil => exact ⟨[], [], rfl, pieces_of_none h⟩
  | cons c s ih =>
    obtain ⟨ws, w, hs, hst⟩ := ih
    cases hc : p c with
    | true => exact ⟨[] :: ws, w, by simp [pieces, hc, hs], by simp [pieces, hc, hst]⟩
    | false =>
      cases ws with
      | nil => exact ⟨[], c :: w, by simp [pieces, hc, hs], by simp [pieces, hc, hst]⟩
      | cons v vs => exact ⟨(c :: v) :: vs, w, by simp [pieces, hc, hs], by simp [pieces, hc, hst]⟩

end LogicalVolumes.Text
