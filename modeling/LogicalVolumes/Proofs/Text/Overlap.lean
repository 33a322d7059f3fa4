import Mathlib.Tactic.Lemma

/-! Where a label can occur in a text of several parts: within one of them, or over a seam. -/

namespace LogicalVolumes.Text

/-- No proper end of the label agrees with the start of `w`, so that the label never runs into `w`. -/
def Apart (label w : List Char) : Prop :=
  ∀ i < label.length, 0 < i → ¬ label.drop i <+: w ∧ ¬ w <+: label.drop i

instance (label w : List Char) : Decidable (Apart label w) := inferInstanceAs (Decidable (∀ i < _, _))

variable {c d : Char} {label w s t before middle tail after : List Char}

lemma Apart.not_infix (h : Apart label w) (hs : ¬ label <:+: s) (ht : ¬ label <:+: w ++ t) :
    ¬ label <:+: s ++ (w ++ t) := by
  intro hwithin
  rcases List.infix_append_iff_ne_nil.mp hwithin with hleft | hright | ⟨l₁, l₂, hne₁, hne₂, rfl, _, hprefix⟩
  · exact hs hleft
  · exact ht hright
  · -- over the seam, an end of the label would agree with the start of `w`
    have hpos := List.length_pos_iff.mpr hne₁
    have hpos' := List.length_pos_iff.mpr hne₂
    have hapart := h l₁.length (by rw [List.length_append]; omega) hpos
    rw [List.drop_left] at hapart
    rcases List.prefix_or_prefix_of_prefix hprefix (List.prefix_append w t) with hshort | hlong
    · exact hapart.1 hshort
    · exact hapart.2 hlong

/-- A character that is not in the label parts the text. -/
lemma infix_split (hc : c ∉ label) (h : label <:+: s ++ c :: t) : label <:+: s ∨ label <:+: t := by
  rcases List.infix_append_iff_ne_nil.mp h with hleft | hright | ⟨l₁, l₂, _, hne, rfl, _, hprefix⟩
  · exact .inl hleft
  · rcases List.infix_cons_iff.mp hright with hprefix | hwithin
    · cases label with
      | nil => exact .inl List.nil_infix
      | cons l label =>
        obtain rfl := (List.cons_prefix_cons.mp hprefix).1
        exact absurd List.mem_cons_self hc
    · exact .inr hwithin
  · cases l₂ with
    | nil => exact absurd rfl hne
    | cons l l₂ =>
      obtain rfl := (List.cons_prefix_cons.mp hprefix).1
      exact absurd (List.mem_append_right l₁ List.mem_cons_self) hc

lemma infix_of_head_not_mem (hs : ∀ c ∈ label.head?, c ∉ s) (h : label <:+: s ++ t) : label <:+: t := by
  induction s with
  | nil => exact h
  | cons d s ih =>
    have hrest := ih fun c hc hmem => hs c hc (List.mem_cons_of_mem d hmem)
    rcases List.infix_cons_iff.mp h with hprefix | hwithin
    · cases label with
      | nil => exact List.nil_infix
      | cons l label =>
        obtain rfl := (List.cons_prefix_cons.mp hprefix).1
        exact absurd List.mem_cons_self (hs l rfl)
    · exact hrest hwithin

/-- Between two columns without the label stands a third one. The label does not run into it, is not in it,
and does not run out of it: `d` is not in the label, and nothing behind `d` starts it. -/
lemma not_infix_columns (tail : List Char) (hbefore : ¬ label <:+: before) (hafter : ¬ label <:+: after)
    (hapart : Apart label w) (hc : c ∈ label) (hmissing : c ∉ w ++ middle) (hd : d ∉ label)
    (htail : ∀ l ∈ label.head?, l ∉ tail) :
    ¬ label <:+: before ++ (w ++ (middle ++ d :: (tail ++ after))) := by
  have hleft : ¬ label <:+: before ++ (w ++ middle) :=
    hapart.not_infix hbefore fun hwithin => hmissing (hwithin.subset hc)
  intro hwithin
  rw [← List.append_assoc w, ← List.append_assoc before] at hwithin
  rcases infix_split hd hwithin with hfirst | hlast
  · exact hleft hfirst
  · exact hafter (infix_of_head_not_mem htail hlast)

/-- The third column ends with a value that has no character of the label. -/
lemma not_infix_beside {gap value : List Char} (hbefore : ¬ label <:+: before) (hafter : ¬ label <:+: after)
    (hapart : Apart label w) (hc : c ∈ label) (hmissing : c ∉ w ++ gap) (hne : value ≠ [])
    (hvalue : ∀ d ∈ value, d ∉ label) : ¬ label <:+: before ++ (w ++ (gap ++ (value ++ after))) := by
  obtain ⟨front, d, rfl⟩ := List.eq_nil_or_concat value |>.resolve_left hne
  have hfront : c ∉ w ++ (gap ++ front) := by
    intro hmem
    rw [← List.append_assoc] at hmem
    rcases List.mem_append.mp hmem with hmem | hmem
    · exact hmissing hmem
    · exact hvalue c (by simp [hmem]) hc
  have hline := not_infix_columns [] hbefore hafter hapart hc hfront (hvalue d (by simp)) (by simp)
  simpa using hline

end LogicalVolumes.Text
