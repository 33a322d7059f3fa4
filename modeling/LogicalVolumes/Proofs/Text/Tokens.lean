import LogicalVolumes.Proofs.Text.Words

/-! The words of a text are its tokens: they are cut where blanks stand, and nowhere else. -/

namespace LogicalVolumes.Text

def solidPart (s : List Char) : List Char := s.filter fun c => !isBlank c

/-- The tokens stand in the text in this order, with blanks between them and perhaps around them. -/
inductive SpacedOut : List (List Char) → List Char → Prop
  | blank {s : List Char} : (∀ c ∈ s, isBlank c = true) → SpacedOut [] s
  | token {lead token rest : List Char} {tokens : List (List Char)} : (∀ c ∈ lead, isBlank c = true) →
      IsSolid token → IsBreak rest → SpacedOut tokens rest → SpacedOut (token :: tokens) (lead ++ (token ++ rest))

/-- The texts differ at most in how much blank space stands between their tokens and around them. -/
def SameTokens (s t : List Char) : Prop := ∃ tokens, SpacedOut tokens s ∧ SpacedOut tokens t

/-- One token ends and another begins somewhere within `middle`. -/
def PartWithin (tokens : List (List Char)) (front middle back : List Char) : Prop :=
  ∃ before after first last, tokens = before ++ after ∧ middle = first ++ last ∧
    before.flatten = solidPart (front ++ first) ∧ after.flatten = solidPart (last ++ back)

structure CutsAtBlanks (text : List Char) (tokens : List (List Char)) : Prop where
  spaced : SpacedOut tokens text
  solid : ∀ token ∈ tokens, IsSolid token
  in_order : tokens.flatten = solidPart text
  part_iff : ∀ front c middle d back, text = (front ++ [c]) ++ (middle ++ d :: back) → isBlank c = false →
    isBlank d = false → (PartWithin tokens (front ++ [c]) middle (d :: back) ↔ ∃ b ∈ middle, isBlank b = true)

variable {c d : Char} {s t front middle back : List Char} {tokens : List (List Char)}

lemma solidPart_append (s t : List Char) : solidPart (s ++ t) = solidPart s ++ solidPart t :=
  List.filter_append ..

lemma solidPart_nil : solidPart [] = [] := rfl

lemma solidPart_cons (hc : isBlank c = false) (s : List Char) : solidPart (c :: s) = c :: solidPart s :=
  List.filter_cons_of_pos (by simp [hc])

lemma solidPart_blank (h : ∀ c ∈ s, isBlank c = true) : solidPart s = [] :=
  List.filter_eq_nil_iff.mpr fun c hc => by simp [h c hc]

lemma solidPart_solid (h : ∀ c ∈ s, isBlank c = false) : solidPart s = s :=
  List.filter_eq_self.mpr fun c hc => by simp [h c hc]

section Words

lemma words_of_blank (h : ∀ c ∈ s, isBlank c = true) : words s = [] := by
  have hs := words_blank_append h []
  rw [List.append_nil] at hs
  exact hs

lemma words_cons_blank (hc : isBlank c = true) (s : List Char) : words (c :: s) = words s :=
  words_append_cons hc [] s

lemma SpacedOut.at_start {token rest : List Char} (htoken : IsSolid token) (hrest : IsBreak rest)
    (h : SpacedOut tokens rest) : SpacedOut (token :: tokens) (token ++ rest) := by
  have hnothing : ∀ c ∈ ([] : List Char), isBlank c = true := by simp
  exact .token hnothing htoken hrest h

lemma SpacedOut.words_eq (h : SpacedOut tokens s) : words s = tokens := by
  induction h with
  | blank hs => exact words_of_blank hs
  | @token lead token rest tokens hlead htoken hrest _ ih =>
    rw [words_blank_append hlead]
    cases rest with
    | nil =>
      rw [← ih, List.append_nil, words_solid htoken]
      rfl
    | cons c rest =>
      have hc := hrest c rfl
      rw [words_append_cons hc, words_solid htoken, ← ih, words_cons_blank hc, List.singleton_append]

lemma SpacedOut.cons_blank (hc : isBlank c = true) (h : SpacedOut tokens s) : SpacedOut tokens (c :: s) := by
  cases h with
  | blank hs => exact .blank (List.forall_mem_cons.mpr ⟨hc, hs⟩)
  | token hlead htoken hrest hmore => exact .token (List.forall_mem_cons.mpr ⟨hc, hlead⟩) htoken hrest hmore

/-- A character in front of the text joins its first token, or is one of its own when blanks follow. -/
lemma SpacedOut.cons_solid (hc : isBlank c = false) (h : SpacedOut tokens s) :
    ∃ tokens, SpacedOut tokens (c :: s) := by
  have hone : IsSolid [c] := ⟨by simp, by simpa using hc⟩
  cases h with
  | blank hs =>
    exact ⟨[[c]], .at_start hone (fun d hd => hs d (List.mem_of_mem_head? hd)) (.blank hs)⟩
  | @token lead token rest tokens hlead htoken hrest hmore =>
    cases lead with
    | nil =>
      refine ⟨(c :: token) :: tokens, .at_start ⟨by simp, ?_⟩ hrest hmore⟩
      exact List.forall_mem_cons.mpr ⟨hc, htoken.2⟩
    | cons b lead =>
      refine ⟨[c] :: token :: tokens, .at_start hone ?_ (.token hlead htoken hrest hmore)⟩
      intro d hd
      obtain rfl : b = d := by simpa using hd
      exact hlead b List.mem_cons_self

lemma exists_spacedOut (s : List Char) : ∃ tokens, SpacedOut tokens s := by
  induction s with
  | nil => exact ⟨[], .blank (by simp)⟩
  | cons c s ih =>
    obtain ⟨tokens, h⟩ := ih
    cases hc : isBlank c with
    | true => exact ⟨tokens, h.cons_blank hc⟩
    | false => exact h.cons_solid hc

lemma spacedOut_words (s : List Char) : SpacedOut (words s) s := by
  obtain ⟨tokens, h⟩ := exists_spacedOut s
  rwa [h.words_eq]

lemma sameTokens_iff : SameTokens s t ↔ words s = words t := by
  constructor
  · rintro ⟨tokens, hs, ht⟩
    rw [hs.words_eq, ht.words_eq]
  · intro h
    exact ⟨words s, spacedOut_words s, h ▸ spacedOut_words t⟩

lemma SpacedOut.solid (h : SpacedOut tokens s) : ∀ token ∈ tokens, IsSolid token := by
  induction h with
  | blank _ => simp
  | token _ htoken _ _ ih => exact List.forall_mem_cons.mpr ⟨htoken, ih⟩

lemma SpacedOut.flatten_eq (h : SpacedOut tokens s) : tokens.flatten = solidPart s := by
  induction h with
  | blank hs => exact (solidPart_blank hs).symm
  | token hlead htoken _ _ ih =>
    rw [solidPart_append, solidPart_append, solidPart_blank hlead, solidPart_solid htoken.2, ← ih]
    rfl

end Words

section Part

lemma words_flatten (s : List Char) : (words s).flatten = solidPart s := (spacedOut_words s).flatten_eq

lemma partWithin_of_blank {b : Char} (hb : isBlank b = true) (hmiddle : b ∈ middle) :
    PartWithin (words (front ++ (middle ++ back))) front middle back := by
  obtain ⟨first, last, rfl⟩ := List.append_of_mem hmiddle
  refine ⟨words (front ++ first), words (last ++ back), first, b :: last, ?_, rfl, words_flatten _, ?_⟩
  · rw [List.append_assoc, ← List.append_assoc front, List.cons_append, words_append_cons hb]
  · rw [← words_cons_blank hb]
    exact words_flatten _

/-- Where the tokens are divided, the text is, and the second part of it starts with a blank. -/
lemma SpacedOut.divide {before after : List (List Char)} (h : SpacedOut (before ++ after) s)
    (hne : before ≠ []) :
    ∃ s₁ s₂, s = s₁ ++ s₂ ∧ SpacedOut before s₁ ∧ SpacedOut after s₂ ∧ IsBreak s₂ := by
  induction before generalizing s with
  | nil => exact absurd rfl hne
  | cons token before ih =>
    cases h with
    | @token lead _ rest _ hlead htoken hrest hmore =>
      cases before with
      | nil =>
        refine ⟨lead ++ (token ++ []), rest, by simp, ?_, hmore, hrest⟩
        exact .token hlead htoken (by simp [IsBreak]) (.blank (by simp))
      | cons other before =>
        obtain ⟨s₁, s₂, rfl, hbefore, hafter, hbreak⟩ := ih hmore (by simp)
        refine ⟨lead ++ (token ++ s₁), s₂, by simp, .token hlead htoken ?_ hbefore, hafter, hbreak⟩
        intro c hc
        exact hrest c (by rw [List.head?_append, hc, Option.some_or])

lemma solidPart_length_le (h : s <+: t) : (solidPart s).length ≤ (solidPart t).length := (h.filter _).length_le

/-- A blank with the first character before it and the second one behind it, by the number of characters other
than blanks in front of it. -/
lemma blank_between {b : Char} (htext : s ++ b :: t = (front ++ [c]) ++ (middle ++ d :: back))
    (hb : isBlank b = true) (hd : isBlank d = false) (hfirst : (solidPart front).length < (solidPart s).length)
    (hlast : (solidPart s).length < (solidPart ((front ++ [c]) ++ (middle ++ [d]))).length) : b ∈ middle := by
  have hprefix : s <+: (front ++ [c]) ++ (middle ++ d :: back) := ⟨b :: t, htext⟩
  have hlow : front.length < s.length := by
    apply Nat.lt_of_not_le
    intro hle
    have hshort := List.prefix_of_prefix_length_le hprefix (by simp) hle
    exact absurd (solidPart_length_le hshort) (Nat.not_le.mpr hfirst)
  have hhigh : s.length < ((front ++ [c]) ++ (middle ++ [d])).length := by
    apply Nat.lt_of_not_le
    intro hle
    have hwhole : (front ++ [c]) ++ (middle ++ [d]) <+: (front ++ [c]) ++ (middle ++ d :: back) := ⟨back, by simp⟩
    have hlong := List.prefix_of_prefix_length_le hwhole hprefix hle
    exact absurd (solidPart_length_le hlong) (Nat.not_le.mpr hlast)
  have hget : (middle ++ d :: back)[s.length - (front.length + 1)]? = some b := by
    have hwhole : (s ++ b :: t)[s.length]? = some b := by simp
    rw [htext, List.getElem?_append_right (by simp; omega)] at hwhole
    simpa using hwhole
  simp only [List.length_append, List.length_cons, List.length_nil] at hhigh
  by_cases hin : s.length - (front.length + 1) < middle.length
  · rw [List.getElem?_append_left hin] at hget
    exact List.mem_of_getElem? hget
  · -- the blank would be `d`
    have hend : s.length - (front.length + 1) = middle.length := by omega
    obtain rfl : d = b := by simpa [hend] using hget
    simp [hb] at hd

lemma blank_of_partWithin (h : SpacedOut tokens ((front ++ [c]) ++ (middle ++ d :: back)))
    (hc : isBlank c = false)
    (hd : isBlank d = false) (hpart : PartWithin tokens (front ++ [c]) middle (d :: back)) :
    ∃ b ∈ middle, isBlank b = true := by
  obtain ⟨before, after, first, last, rfl, rfl, hbefore, hafter⟩ := hpart
  have hcount : (solidPart (front ++ [c] ++ first)).length =
      (solidPart front).length + 1 + (solidPart first).length := by
    simp only [solidPart_append, solidPart_cons hc, solidPart_nil, List.length_append, List.length_singleton]
  have hne : before ≠ [] := by
    rintro rfl
    rw [← hbefore, List.flatten_nil, List.length_nil] at hcount
    omega
  obtain ⟨s, t, htext, hs, ht, hbreak⟩ := h.divide hne
  cases t with
  | nil =>
    have hrest := ht.flatten_eq
    rw [hafter, solidPart_append, solidPart_cons hd] at hrest
    simp [solidPart_nil] at hrest
  | cons b t =>
    have hsame : solidPart s = solidPart (front ++ [c] ++ first) := hs.flatten_eq.symm.trans hbefore
    have hb := hbreak b rfl
    refine ⟨b, blank_between htext.symm hb hd ?_ ?_, hb⟩
    · rw [hsame, hcount]
      omega
    · rw [hsame]
      simp only [solidPart_append, solidPart_cons hd, solidPart_nil, List.length_append, List.length_singleton]
      omega

lemma words_cutsAtBlanks (s : List Char) : CutsAtBlanks s (words s) where
  spaced := spacedOut_words s
  solid := (spacedOut_words s).solid
  in_order := words_flatten s
  part_iff front c middle d back hs hc hd := by
    constructor
    · intro h
      exact blank_of_partWithin (hs ▸ spacedOut_words s) hc hd h
    · rintro ⟨b, hmiddle, hb⟩
      rw [hs]
      exact partWithin_of_blank hb hmiddle

end Part

end LogicalVolumes.Text
