import LogicalVolumes.Proofs.Text.Words
import LogicalVolumes.Report.Label

/-! What a label on a line finds behind it, and when it finds nothing. -/

namespace LogicalVolumes.Report

open LogicalVolumes.Text

/-- No proper end of the label is also its start, so that two occurrences never overlap. -/
def Unbordered (label : List Char) : Prop := ∀ i < label.length, 0 < i → ¬ label.drop i <+: label

instance (label : List Char) : Decidable (Unbordered label) := inferInstanceAs (Decidable (∀ i < _, _))

def IsColumn (label value after line : List Char) : Prop :=
  ∃ before gap, line = before ++ (label ++ (gap ++ (value ++ after))) ∧ ¬ label <:+: before ∧ IsGap gap ∧
    IsBreak after

variable {p : Char → Bool} {label gap value before after line s t : List Char}

lemma after?_eq_some : after? label s = some t ↔ s = label ++ t := by
  induction label generalizing s with
  | nil => simp [after?, eq_comm]
  | cons l label ih =>
    cases s with
    | nil => simp [after?]
    | cons c s =>
      by_cases hc : l = c
      · simp [after?, hc, ih]
      · simp [after?, hc, Ne.symm hc]

lemma after?_append (label t : List Char) : after? label (label ++ t) = some t := after?_eq_some.mpr rfl

lemma after?_eq_none (h : ¬ label <+: s) : after? label s = none := by
  cases ha : after? label s with
  | none => rfl
  | some t => exact absurd ⟨t, (after?_eq_some.mp ha).symm⟩ h

lemma mem_afterEach : t ∈ afterEach label s ↔ ∃ before, s = before ++ label ++ t := by
  induction s with
  | nil =>
    simp only [afterEach, Option.mem_toList, after?_eq_some]
    constructor
    · intro h
      exact ⟨[], h⟩
    · rintro ⟨before, h⟩
      simp_all
  | cons c s ih =>
    simp only [afterEach, List.mem_append, Option.mem_toList, after?_eq_some, ih]
    constructor
    · rintro (h | ⟨before, h⟩)
      · exact ⟨[], h⟩
      · exact ⟨c :: before, by simp [h]⟩
    · rintro ⟨before, h⟩
      cases before with
      | nil => exact .inl h
      | cons d before => exact .inr ⟨before, (List.cons.inj h).2⟩

lemma afterEach_eq_nil (h : ¬ label <:+: s) : afterEach label s = [] := by
  rw [List.eq_nil_iff_forall_not_mem]
  intro t ht
  obtain ⟨before, rfl⟩ := mem_afterEach.mp ht
  exact h ⟨before, t, rfl⟩

lemma Unbordered.not_prefix (hlabel : Unbordered label) (hne : before ≠ []) (h : ¬ label <:+: before) :
    ¬ label <+: before ++ (label ++ s) := by
  intro hprefix
  by_cases hlen : label.length ≤ before.length
  · exact h (List.prefix_of_prefix_length_le hprefix (List.prefix_append _ _) hlen).isInfix
  · -- the two occurrences would overlap, and the end of the first would be the start of the second
    have hbefore : before <+: label :=
      List.prefix_of_prefix_length_le (List.prefix_append _ _) hprefix (by omega)
    obtain ⟨rest, rfl⟩ := hbefore
    have hrest : rest <+: before ++ rest := by
      rw [List.append_assoc, List.prefix_append_right_inj, ← List.append_assoc] at hprefix
      exact List.prefix_of_prefix_length_le hprefix (List.prefix_append _ s) (by simp)
    have hpos := List.length_pos_iff.mpr hne
    refine hlabel before.length (by omega) hpos ?_
    simpa using hrest

lemma afterEach_head (label s : List Char) : ∃ others, afterEach label (label ++ s) = s :: others := by
  have hafter := after?_append label s
  cases hs : label ++ s with
  | nil =>
    obtain ⟨rfl, rfl⟩ := List.append_eq_nil_iff.mp hs
    exact ⟨[], rfl⟩
  | cons c rest =>
    rw [hs] at hafter
    exact ⟨afterEach label rest, by simp [afterEach, hafter]⟩

lemma findSome?_afterEach {β : Type} {f : List Char → Option β} {b : β} (h : f s = some b) :
    (afterEach label (label ++ s)).findSome? f = some b := by
  obtain ⟨others, hothers⟩ := afterEach_head label s
  rw [hothers, List.findSome?_cons, h]

lemma afterEach_first (hlabel : Unbordered label) (h : ¬ label <:+: before) (s : List Char) :
    ∃ others, afterEach label (before ++ (label ++ s)) = s :: others := by
  induction before with
  | nil => exact afterEach_head label s
  | cons c before ih =>
    obtain ⟨others, hothers⟩ := ih fun hwithin => h (hwithin.trans (List.suffix_cons c before).isInfix)
    have hnone := after?_eq_none (hlabel.not_prefix (s := s) (by simp) h)
    rw [List.cons_append] at hnone
    exact ⟨others, by simp [afterEach, hnone, hothers]⟩

lemma pastBlanks?_gap (hgap : IsGap gap) (hs : ∀ c, s.head? = some c → isBlank c = false) :
    pastBlanks? (gap ++ s) = some s := by
  obtain ⟨hne, hblank⟩ := hgap
  cases gap with
  | nil => exact absurd rfl hne
  | cons c gap =>
    simp only [List.cons_append, pastBlanks?, hblank c (by simp), if_true, trimStart, Option.some.injEq]
    exact dropWhile_append (fun d hd => hblank d (by simp [hd])) hs

lemma run?_append (hvalue : value ≠ []) (hp : ∀ c ∈ value, p c = true)
    (hs : ∀ c, s.head? = some c → p c = false) :
    run? p (value ++ s) = some (value, s) := by
  cases value with
  | nil => exact absurd rfl hvalue
  | cons c value =>
    have hrest : ∀ d ∈ value, p d = true := fun d hd => hp d (by simp [hd])
    simp [run?, hp c (by simp), takeWhile_append hrest hs, dropWhile_append hrest hs]

lemma pastBlanks?_eq_some (h : pastBlanks? s = some t) : ∃ gap, IsGap gap ∧ s = gap ++ t := by
  cases s with
  | nil => simp [pastBlanks?] at h
  | cons c s =>
    cases hc : isBlank c with
    | false => simp [pastBlanks?, hc] at h
    | true =>
      simp only [pastBlanks?, hc, if_true, trimStart, Option.some.injEq] at h
      refine ⟨c :: s.takeWhile isBlank, ⟨by simp, ?_⟩, by simp [← h, List.takeWhile_append_dropWhile]⟩
      intro d hd
      rcases List.mem_cons.mp hd with rfl | hd
      · exact hc
      · exact List.all_eq_true.mp List.all_takeWhile d hd

lemma run?_eq_some (h : run? p s = some (value, t)) :
    s = value ++ t ∧ value ≠ [] ∧ ∀ c ∈ value, p c = true := by
  cases s with
  | nil => simp [run?] at h
  | cons c s =>
    cases hc : p c with
    | false => simp [run?, hc] at h
    | true =>
      simp only [run?, hc, if_true, Option.some.injEq, Prod.mk.injEq] at h
      obtain ⟨rfl, rfl⟩ := h
      refine ⟨by simp [List.takeWhile_append_dropWhile], by simp, ?_⟩
      intro d hd
      rcases List.mem_cons.mp hd with rfl | hd
      · exact hc
      · exact List.all_eq_true.mp List.all_takeWhile d hd

lemma spacedRun?_eq_some (h : spacedRun? p s = some (value, t)) :
    ∃ gap, IsGap gap ∧ s = gap ++ (value ++ t) ∧ value ≠ [] ∧ ∀ c ∈ value, p c = true := by
  obtain ⟨rest, hrest, hrun⟩ := Option.bind_eq_some_iff.mp h
  obtain ⟨gap, hgap, rfl⟩ := pastBlanks?_eq_some hrest
  obtain ⟨rfl, hvalue, hp⟩ := run?_eq_some hrun
  exact ⟨gap, hgap, rfl, hvalue, hp⟩

lemma head_not_blank (hp : ∀ c, isBlank c = true → p c = false) (hvalue : value ≠ [])
    (hrun : ∀ c ∈ value, p c = true) (s : List Char) :
    ∀ c, (value ++ s).head? = some c → isBlank c = false := by
  intro c hc
  cases value with
  | nil => exact absurd rfl hvalue
  | cons d value =>
    obtain rfl : d = c := by simpa using hc
    cases hb : isBlank d with
    | false => rfl
    | true => exact absurd (hrun d (by simp)) (by simp [hp d hb])

lemma spacedRun?_gap (hp : ∀ c, isBlank c = true → p c = false) (hgap : IsGap gap) (hvalue : value ≠ [])
    (hrun : ∀ c ∈ value, p c = true) (hs : ∀ c, s.head? = some c → p c = false) :
    spacedRun? p (gap ++ (value ++ s)) = some (value, s) := by
  rw [spacedRun?, pastBlanks?_gap hgap (head_not_blank hp hvalue hrun s), Option.bind_some,
    run?_append hvalue hrun hs]

lemma labelled?_first (hp : ∀ c, isBlank c = true → p c = false) (hlabel : Unbordered label)
    (hfirst : ¬ label <:+: before) (hgap : IsGap gap) (hvalue : value ≠ []) (hrun : ∀ c ∈ value, p c = true)
    (hafter : ∀ c, after.head? = some c → p c = false) :
    labelled? p label (before ++ (label ++ (gap ++ (value ++ after)))) = some value := by
  obtain ⟨others, hothers⟩ := afterEach_first hlabel hfirst (gap ++ (value ++ after))
  simp [labelled?, hothers, spacedRun?_gap hp hgap hvalue hrun hafter]

lemma labelled?_column (hp : ∀ c, isBlank c = true → p c = false) (hlabel : Unbordered label)
    (hvalue : value ≠ []) (hrun : ∀ c ∈ value, p c = true) (h : IsColumn label value after line) :
    labelled? p label line = some value := by
  obtain ⟨before, gap, rfl, hfirst, hgap, hafter⟩ := h
  exact labelled?_first hp hlabel hfirst hgap hvalue hrun fun c hc => hp c (hafter c hc)

lemma labelled?_eq_some (h : labelled? p label line = some value) : ∃ before gap after,
    line = before ++ (label ++ (gap ++ (value ++ after))) ∧ IsGap gap ∧ value ≠ [] ∧ ∀ c ∈ value, p c = true := by
  obtain ⟨s, hs, hrun⟩ := List.exists_of_findSome?_eq_some h
  obtain ⟨before, rfl⟩ := mem_afterEach.mp hs
  obtain ⟨⟨run, after⟩, hspaced, rfl⟩ := Option.map_eq_some_iff.mp hrun
  obtain ⟨gap, hgap, rfl, hvalue, hp⟩ := spacedRun?_eq_some hspaced
  exact ⟨before, gap, after, List.append_assoc .., hgap, hvalue, hp⟩

lemma labelled?_eq_none (h : ¬ label <:+: line) : labelled? p label line = none := by
  simp [labelled?, afterEach_eq_nil h]

/-- Somewhere in the text a bracket opens right before a digit. -/
def OpensDigits (s : List Char) : Prop := ∃ before c rest, s = before ++ '(' :: c :: rest ∧ isDigit c = true

lemma afterEach_bracket (s t : List Char) :
    afterEach ['('] (s ++ t) = (afterEach ['('] s).map (· ++ t) ++ afterEach ['('] t := by
  induction s with
  | nil => simp [afterEach, after?]
  | cons c s ih =>
    by_cases hc : '(' = c
    · subst hc
      simp [afterEach, after?, ih]
    · simp [afterEach, after?, hc, ih]

lemma not_opensDigits_of_not_mem (h : '(' ∉ s) : ¬ OpensDigits s := by
  rintro ⟨before, c, rest, rfl, _⟩
  exact h (by simp)

lemma brackets_eq_nil (h : ¬ OpensDigits s) : (afterEach ['('] s).filterMap (run? isDigit) = [] := by
  rw [List.filterMap_eq_nil_iff]
  intro t ht
  obtain ⟨before, rfl⟩ := mem_afterEach.mp ht
  cases t with
  | nil => rfl
  | cons c rest =>
    cases hc : isDigit c with
    | false => simp [run?, hc]
    | true => exact absurd ⟨before, c, rest, by simp, hc⟩ h

lemma bracketed?_last {middle figure : List Char} (hfigure : figure ≠ [])
    (hdigits : ∀ c ∈ figure, isDigit c = true) (hafter : ∀ c, after.head? = some c → isDigit c = false)
    (hlast : ¬ OpensDigits after) : bracketed? (middle ++ '(' :: (figure ++ after)) = some figure := by
  have hbracket : '(' ∉ figure := fun hmem => absurd (hdigits _ hmem) (by decide +kernel)
  have hopen : afterEach ['('] ('(' :: (figure ++ after)) =
      (figure ++ after) :: afterEach ['('] (figure ++ after) := by simp [afterEach, after?]
  have hnone : afterEach ['('] figure = [] :=
    afterEach_eq_nil fun h => hbracket (h.subset (by simp))
  rw [bracketed?, afterEach_bracket, hopen, afterEach_bracket figure, hnone, List.map_nil, List.nil_append,
    List.filterMap_append, List.filterMap_cons_some (run?_append hfigure hdigits hafter),
    brackets_eq_nil hlast, List.getLast?_concat]
  rfl

lemma labelledBracket?_first {middle figure : List Char} (hlabel : Unbordered label)
    (hfirst : ¬ label <:+: before) (hfigure : figure ≠ []) (hdigits : ∀ c ∈ figure, isDigit c = true)
    (hafter : ∀ c, after.head? = some c → isDigit c = false) (hlast : ¬ OpensDigits after) :
    labelledBracket? label (before ++ (label ++ (middle ++ '(' :: (figure ++ after)))) = some figure := by
  obtain ⟨others, hothers⟩ := afterEach_first hlabel hfirst (middle ++ '(' :: (figure ++ after))
  simp [labelledBracket?, hothers, bracketed?_last hfigure hdigits hafter hlast]

lemma labelledBracket?_eq_some {figure : List Char} (h : labelledBracket? label line = some figure) :
    ∃ before after, line = before ++ '(' :: (figure ++ after) ∧ figure ≠ [] ∧ ∀ c ∈ figure, isDigit c = true := by
  obtain ⟨s, hs, hbracket⟩ := Option.bind_eq_some_iff.mp h
  obtain ⟨before, rfl⟩ := mem_afterEach.mp (List.mem_of_mem_head? hs)
  obtain ⟨⟨run, after⟩, hlast, rfl⟩ := Option.map_eq_some_iff.mp hbracket
  obtain ⟨t, ht, hrun⟩ := List.mem_filterMap.mp (List.mem_of_getLast? hlast)
  obtain ⟨middle, rfl⟩ := mem_afterEach.mp ht
  obtain ⟨rfl, hfigure, hdigits⟩ := run?_eq_some hrun
  exact ⟨before ++ label ++ middle, after, by simp, hfigure, hdigits⟩

lemma labelledBracket?_eq_none (h : ¬ label <:+: line) : labelledBracket? label line = none := by
  simp [labelledBracket?, afterEach_eq_nil h]

end LogicalVolumes.Report
