import LogicalVolumes.Proofs.Text.Words

/-! A text without the blanks around it: what it is, and that no other text is. -/

namespace LogicalVolumes.Text

variable {s t before after : List Char}

lemma trimStart_blanks (h : ∀ c ∈ before, isBlank c = true) (s : List Char) :
    trimStart (before ++ s) = trimStart s :=
  List.dropWhile_append_of_pos h

lemma trimStart_of_blank (h : ∀ c ∈ s, isBlank c = true) : trimStart s = [] := by
  have hs := trimStart_blanks h []
  rw [List.append_nil] at hs
  exact hs

lemma trimStart_of_first (h : ∀ c, s.head? = some c → isBlank c = false) : trimStart s = s := by
  cases s with
  | nil => rfl
  | cons c s => simp [trimStart, h c rfl]

lemma trimEnd_blanks (h : ∀ c ∈ after, isBlank c = true) (s : List Char) :
    trimEnd (s ++ after) = trimEnd s := by
  rw [trimEnd, trimEnd, List.reverse_append, trimStart_blanks fun c hc => h c (List.mem_reverse.mp hc)]

lemma trimEnd_of_last (h : ∀ c, s.getLast? = some c → isBlank c = false) : trimEnd s = s := by
  rw [trimEnd, trimStart_of_first, List.reverse_reverse]
  intro c hc
  exact h c (by rwa [List.head?_reverse] at hc)

lemma IsTrimmed.trim_eq (h : IsTrimmed t s) : trim s = t := by
  obtain ⟨⟨before, after, rfl, hbefore, hafter⟩, hfirst, hlast⟩ := h
  rw [trim, trimStart_blanks hbefore]
  cases t with
  | nil =>
    rw [List.nil_append, trimStart_of_blank hafter]
    rfl
  | cons c t =>
    have hstart : trimStart (c :: t ++ after) = c :: t ++ after := trimStart_of_first hfirst
    rw [hstart, trimEnd_blanks hafter, trimEnd_of_last hlast]

lemma trim_of_ends (hfirst : ∀ c, s.head? = some c → isBlank c = false)
    (hlast : ∀ c, s.getLast? = some c → isBlank c = false) : trim s = s :=
  IsTrimmed.trim_eq ⟨⟨[], [], by simp, by simp, by simp⟩, hfirst, hlast⟩

lemma trim_of_solid (h : ∀ c ∈ s, isBlank c = false) : trim s = s :=
  trim_of_ends (fun c hc => h c (List.mem_of_mem_head? hc)) fun c hc => h c (List.mem_of_getLast? hc)

lemma trim_eq_nil_iff : trim s = [] ↔ ∀ c ∈ s, isBlank c = true := by
  constructor
  · intro h
    obtain ⟨before, after, hs, hbefore, hafter⟩ := (isTrimmed_trim s).parts
    rw [hs, h]
    exact List.forall_mem_append.mpr ⟨hbefore, hafter⟩
  · intro h
    exact IsTrimmed.trim_eq ⟨⟨s, [], by simp, h, by simp⟩, by simp, by simp⟩

end LogicalVolumes.Text
