import LogicalVolumes.Proofs.Report.Group
import LogicalVolumes.Proofs.Report.Volume
import LogicalVolumes.Proofs.Text.Overlap

/-! Which lines the rules of a report match, whatever else stands on them, and which lines say nothing. -/

namespace LogicalVolumes

open Report Text

/-- The label, blanks, and a character of the kind `p`. -/
def HasSpaced (p : Char → Bool) (label line : List Char) : Prop :=
  ∃ before gap c after, line = before ++ (label ++ (gap ++ c :: after)) ∧ IsGap gap ∧ p c = true

/-- The label, and behind it, near or far, a bracket that opens right before a digit. -/
def HasBracket (label line : List Char) : Prop :=
  ∃ before rest, line = before ++ (label ++ rest) ∧ OpensDigits rest

def HasNames (line : List Char) : Prop :=
  ∃ before gap₁ volume gap₂ gap₃ c after, line = before ++ nameLine gap₁ volume gap₂ gap₃ (c :: after) ∧
    IsGap gap₁ ∧ volume ≠ [] ∧ (∀ d ∈ volume, isWord d = true) ∧ IsGap gap₂ ∧ IsGap gap₃ ∧ isWord c = true

/-- The label, a digit behind blanks, and behind it the label of the physical partitions. -/
def HasPartitions (line : List Char) : Prop :=
  ∃ before gap c rest, line = before ++ ("LPs:".toList ++ (gap ++ c :: rest)) ∧ IsGap gap ∧
    isDigit c = true ∧ "PPs".toList <:+: rest

structure SaysNothingOfGroup (line : List Char) : Prop where
  no_name : ¬ HasSpaced isWord "VOLUME GROUP:".toList line
  no_total : ¬ HasBracket "TOTAL PP".toList line
  no_unitSize : ¬ HasSpaced isDigit "PP SIZE:".toList line
  no_free : ¬ HasBracket "FREE PP".toList line

structure SaysNothingOfVolume (line : List Char) : Prop where
  no_names : ¬ HasNames line
  no_partitions : ¬ HasPartitions line
  no_unitSize : ¬ HasSpaced isDigit "PP SIZE:".toList line
  no_policy : ¬ HasSpaced isWord "INTER-POLICY:".toList line

variable {p : Char → Bool} {label line s t : List Char}

lemma spacedRun?_ne_none (hp : ∀ c, isBlank c = true → p c = false) :
    spacedRun? p s ≠ none ↔ ∃ gap c after, s = gap ++ c :: after ∧ IsGap gap ∧ p c = true := by
  rw [Option.ne_none_iff_exists']
  constructor
  · rintro ⟨⟨value, t⟩, h⟩
    obtain ⟨gap, hgap, rfl, hne, hrun⟩ := spacedRun?_eq_some h
    cases value with
    | nil => exact absurd rfl hne
    | cons c value => exact ⟨gap, c, value ++ t, rfl, hgap, hrun c List.mem_cons_self⟩
  · rintro ⟨gap, c, after, rfl, hgap, hc⟩
    have hpast : pastBlanks? (gap ++ c :: after) = some (c :: after) := by
      refine pastBlanks?_gap hgap fun d hd => ?_
      obtain rfl : c = d := by simpa using hd
      cases hblank : isBlank c with
      | false => rfl
      | true => exact absurd hc (by simp [hp c hblank])
    exact ⟨_, by rw [spacedRun?, hpast, Option.bind_some, run?, if_pos hc]⟩

lemma labelled?_eq_none_iff (hp : ∀ c, isBlank c = true → p c = false) :
    labelled? p label line = none ↔ ¬ HasSpaced p label line := by
  rw [labelled?, List.findSome?_eq_none_iff]
  constructor
  · rintro h ⟨before, gap, c, after, rfl, hgap, hc⟩
    have hnone := h _ (mem_afterEach.mpr ⟨before, (List.append_assoc ..).symm⟩)
    rw [Option.map_eq_none_iff] at hnone
    exact (spacedRun?_ne_none hp).mpr ⟨gap, c, after, rfl, hgap, hc⟩ hnone
  · intro h s hs
    obtain ⟨before, rfl⟩ := mem_afterEach.mp hs
    rw [Option.map_eq_none_iff]
    refine Classical.byContradiction fun hsome => h ?_
    obtain ⟨gap, c, after, rfl, hgap, hc⟩ := (spacedRun?_ne_none hp).mp hsome
    exact ⟨before, gap, c, after, List.append_assoc .., hgap, hc⟩

lemma bracketed?_eq_none_iff : bracketed? s = none ↔ ¬ OpensDigits s := by
  constructor
  · rintro h ⟨before, c, rest, rfl, hc⟩
    rw [bracketed?, Option.map_eq_none_iff, List.getLast?_eq_none_iff, List.filterMap_eq_nil_iff] at h
    have hnone := h (c :: rest) (mem_afterEach.mpr ⟨before, by simp⟩)
    simp [run?, hc] at hnone
  · intro h
    rw [bracketed?, brackets_eq_nil h]
    rfl

lemma Report.OpensDigits.of_suffix (h : OpensDigits s) (hsuffix : s <:+ t) : OpensDigits t := by
  obtain ⟨before, c, rest, rfl, hc⟩ := h
  obtain ⟨front, rfl⟩ := hsuffix
  exact ⟨front ++ before, c, rest, (List.append_assoc ..).symm, hc⟩

lemma opensDigits_append (hs : ¬ OpensDigits s) (ht : ¬ OpensDigits t)
    (hseam : s.getLast? = some '(' → ∀ c, t.head? = some c → isDigit c = false) : ¬ OpensDigits (s ++ t) := by
  rintro ⟨before, c, rest, heq, hc⟩
  rcases List.append_eq_append_iff.mp heq with ⟨front, rfl, htail⟩ | ⟨front, rfl, htail⟩
  · exact ht ⟨front, c, rest, htail, hc⟩
  · cases front with
    | nil => exact ht ⟨[], c, rest, htail.symm, hc⟩
    | cons d front =>
      obtain ⟨rfl, hrest⟩ : '(' = d ∧ c :: rest = front ++ t := by simpa using htail
      cases front with
      | nil =>
        obtain rfl : c :: rest = t := hrest
        exact absurd hc (by simp [hseam (by simp) c rfl])
      | cons e front =>
        obtain ⟨rfl, _⟩ : c = e ∧ rest = front ++ t := by simpa using hrest
        exact hs ⟨before, c, front, rfl, hc⟩

lemma opensDigits_of_plain (hs : '(' ∉ s) (ht : ¬ OpensDigits t) : ¬ OpensDigits (s ++ t) :=
  opensDigits_append (not_opensDigits_of_not_mem hs) ht fun hlast => absurd (List.mem_of_getLast? hlast) hs

/-- What stands behind the first label holds what stands behind any other. -/
lemma suffix_of_head? (hhead : (afterEach label line).head? = some s) (ht : t ∈ afterEach label line) :
    t <:+ s := by
  induction line with
  | nil =>
    rw [afterEach] at hhead ht
    cases hafter : after? label [] with
    | none => simp [hafter] at ht
    | some u => simp_all
  | cons c line ih =>
    rw [afterEach] at hhead ht
    cases hafter : after? label (c :: line) with
    | none => exact ih (by simpa [hafter] using hhead) (by simpa [hafter] using ht)
    | some u =>
      obtain rfl : u = s := by simpa [hafter] using hhead
      have hline := after?_eq_some.mp hafter
      rcases List.mem_append.mp ht with hmem | hmem
      · obtain rfl : t = u := by simpa [hafter, eq_comm] using hmem
        exact List.suffix_refl _
      · obtain ⟨before, hbefore⟩ := mem_afterEach.mp hmem
        have hlength : t.length ≤ u.length := by
          have h₁ := congrArg List.length hline
          have h₂ := congrArg List.length hbefore
          simp only [List.length_append, List.length_cons] at h₁ h₂
          omega
        have hshort : t <:+ c :: line := ⟨c :: (before ++ label), by rw [hbefore, List.cons_append]⟩
        have hlong : u <:+ c :: line := ⟨label, hline.symm⟩
        exact List.suffix_of_suffix_length_le hshort hlong hlength

lemma labelledBracket?_eq_none_iff : labelledBracket? label line = none ↔ ¬ HasBracket label line := by
  rw [labelledBracket?, Option.bind_eq_none_iff]
  constructor
  · rintro h ⟨before, rest, rfl, hopens⟩
    have hmem : rest ∈ afterEach label (before ++ (label ++ rest)) :=
      mem_afterEach.mpr ⟨before, (List.append_assoc ..).symm⟩
    obtain ⟨s, hs⟩ := Option.isSome_iff_exists.mp (List.isSome_head?.mpr (List.ne_nil_of_mem hmem))
    exact bracketed?_eq_none_iff.mp (h s hs) (hopens.of_suffix (suffix_of_head? hs hmem))
  · intro h s hs
    obtain ⟨before, rfl⟩ := mem_afterEach.mp (List.mem_of_mem_head? hs)
    exact bracketed?_eq_none_iff.mpr fun hopens => h ⟨before, s, List.append_assoc .., hopens⟩

lemma names_eq_none_iff :
    (afterEach "LOGICAL VOLUME:".toList line).findSome? namePair? = none ↔ ¬ HasNames line := by
  rw [List.findSome?_eq_none_iff]
  constructor
  · rintro h ⟨before, gap₁, volume, gap₂, gap₃, c, after, rfl, h₁, hne, hword, h₂, h₃, hc⟩
    have htail : (c :: after).takeWhile isWord ≠ [] := by simp [hc]
    have hread := namePair?_read hne hword h₁ h₂ h₃ htail
    have hnone := h _ (mem_afterEach.mpr ⟨before, (List.append_assoc ..).symm⟩)
    cases hread.symm.trans hnone
  · intro h s hs
    obtain ⟨before, rfl⟩ := mem_afterEach.mp hs
    refine Option.eq_none_iff_forall_ne_some.mpr fun pair hpair => h ?_
    obtain ⟨gap₁, gap₂, gap₃, c, tail, h₁, h₂, h₃, hne, hword, hc, hlabel⟩ := namePair?_eq_some hpair
    have hline := List.append_assoc before "LOGICAL VOLUME:".toList s
    rw [hlabel] at hline
    exact ⟨before, gap₁, pair.1, gap₂, gap₃, c, tail, hline, h₁, hne, hword, h₂, h₃, hc⟩

lemma partitionFigure?_ne_none : partitionFigure? s ≠ none ↔ ∃ gap c rest, s = gap ++ c :: rest ∧
    IsGap gap ∧ isDigit c = true ∧ "PPs".toList <:+: rest := by
  rw [Option.ne_none_iff_exists']
  constructor
  · rintro ⟨digits, h⟩
    simp only [partitionFigure?, Option.bind_eq_bind, Option.bind_eq_some_iff] at h
    obtain ⟨⟨run, rest⟩, hspaced, t, ht, _⟩ := h
    obtain ⟨gap, hgap, rfl, hne, hrun⟩ := spacedRun?_eq_some hspaced
    obtain ⟨before, rfl⟩ := mem_afterEach.mp (List.mem_of_mem_head? ht)
    cases run with
    | nil => exact absurd rfl hne
    | cons c run =>
      refine ⟨gap, c, run ++ (before ++ "PPs".toList ++ t), rfl, hgap, hrun c List.mem_cons_self, ?_⟩
      exact List.infix_append_of_infix_right ⟨before, t, rfl⟩
  · rintro ⟨gap, c, rest, rfl, hgap, hc, hphysical⟩
    have hrun : ∀ d ∈ c :: rest.takeWhile isDigit, isDigit d = true := by
      intro d hd
      rcases List.mem_cons.mp hd with rfl | hd
      · exact hc
      · exact List.all_eq_true.mp List.all_takeWhile d hd
    have hend : ∀ d, (rest.dropWhile isDigit).head? = some d → isDigit d = false := by
      intro d hd
      simpa [hd] using List.head?_dropWhile_not isDigit rest
    have hspaced := spacedRun?_gap digits_blank hgap (List.cons_ne_nil _ _) hrun hend
    rw [List.cons_append, List.takeWhile_append_dropWhile] at hspaced
    -- the digits that the run takes hold no part of the label
    have hlater : "PPs".toList <:+: rest.dropWhile isDigit := by
      rw [← List.takeWhile_append_dropWhile (p := isDigit) (l := rest)] at hphysical
      refine infix_of_head_not_mem (fun d hd hmem => ?_) hphysical
      obtain rfl : 'P' = d := by simpa using hd
      exact absurd (List.all_eq_true.mp List.all_takeWhile _ hmem) (by decide +kernel)
    obtain ⟨before, t, ht⟩ := hlater
    have hmem : t ∈ afterEach "PPs".toList (rest.dropWhile isDigit) := mem_afterEach.mpr ⟨before, ht.symm⟩
    obtain ⟨u, hu⟩ := Option.isSome_iff_exists.mp (List.isSome_head?.mpr (List.ne_nil_of_mem hmem))
    refine ⟨c :: rest.takeWhile isDigit, ?_⟩
    simp only [partitionFigure?, Option.bind_eq_bind, Option.bind_eq_some_iff]
    exact ⟨_, hspaced, u, hu, rfl⟩

lemma partitions_eq_none_iff :
    (afterEach "LPs:".toList line).findSome? partitionFigure? = none ↔ ¬ HasPartitions line := by
  rw [List.findSome?_eq_none_iff]
  constructor
  · rintro h ⟨before, gap, c, rest, rfl, hfigure⟩
    have hnone := h _ (mem_afterEach.mpr ⟨before, (List.append_assoc ..).symm⟩)
    exact partitionFigure?_ne_none.mpr ⟨gap, c, rest, rfl, hfigure⟩ hnone
  · intro h s hs
    obtain ⟨before, rfl⟩ := mem_afterEach.mp hs
    refine Classical.byContradiction fun hsome => h ?_
    obtain ⟨gap, c, rest, rfl, hfigure⟩ := partitionFigure?_ne_none.mp hsome
    exact ⟨before, gap, c, rest, List.append_assoc .., hfigure⟩

/-- A line gives no entry exactly if none of the four rules matches it. -/
lemma groupEntry_eq_none_iff : GroupEntry.ofLine? line = none ↔ SaysNothingOfGroup line := by
  have hiff : GroupEntry.ofLine? line = none ↔ labelled? isWord "VOLUME GROUP:".toList line = none ∧
      labelledBracket? "TOTAL PP".toList line = none ∧ labelled? isDigit "PP SIZE:".toList line = none ∧
      labelledBracket? "FREE PP".toList line = none := by
    simp only [GroupEntry.ofLine?, Option.orElse_eq_orElse, Option.orElse_eq_or, Option.or_eq_none_iff,
      Option.map_eq_none_iff]
  rw [hiff, labelled?_eq_none_iff fun _ => isWord_of_blank, labelledBracket?_eq_none_iff,
    labelled?_eq_none_iff digits_blank, labelledBracket?_eq_none_iff]
  constructor
  · rintro ⟨hname, htotal, hunit, hfree⟩
    exact ⟨hname, htotal, hunit, hfree⟩
  · rintro ⟨hname, htotal, hunit, hfree⟩
    exact ⟨hname, htotal, hunit, hfree⟩

lemma volumeEntry_eq_none_iff : VolumeEntry.ofLine? line = none ↔ SaysNothingOfVolume line := by
  have hiff : VolumeEntry.ofLine? line = none ↔
      (afterEach "LOGICAL VOLUME:".toList line).findSome? namePair? = none ∧
      (afterEach "LPs:".toList line).findSome? partitionFigure? = none ∧
      labelled? isDigit "PP SIZE:".toList line = none ∧
      labelled? isWord "INTER-POLICY:".toList line = none := by
    simp only [VolumeEntry.ofLine?, Option.orElse_eq_orElse, Option.orElse_eq_or, Option.or_eq_none_iff,
      Option.map_eq_none_iff]
  rw [hiff, names_eq_none_iff, partitions_eq_none_iff, labelled?_eq_none_iff digits_blank,
    labelled?_eq_none_iff fun _ => isWord_of_blank]
  constructor
  · rintro ⟨hnames, hpartitions, hunit, hpolicy⟩
    exact ⟨hnames, hpartitions, hunit, hpolicy⟩
  · rintro ⟨hnames, hpartitions, hunit, hpolicy⟩
    exact ⟨hnames, hpartitions, hunit, hpolicy⟩

end LogicalVolumes
