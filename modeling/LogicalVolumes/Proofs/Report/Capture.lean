import LogicalVolumes.Proofs.Report.Latest
import LogicalVolumes.Proofs.Report.Search

/-! Which part of a line each rule of the reports captures: behind the first label or the first that is followed
by what it should be, and always whole runs. -/

namespace LogicalVolumes

open Report Text

namespace Report

/-- A run of the kind, which what follows does not continue. -/
structure IsRun (kind : Char → Bool) (run after : List Char) : Prop where
  nonempty : run ≠ []
  all : ∀ c ∈ run, kind c = true
  ended : ∀ c, after.head? = some c → kind c = false

def StartsSpaced (kind : Char → Bool) (s run after : List Char) : Prop :=
  ∃ gap, IsGap gap ∧ s = gap ++ (run ++ after) ∧ IsRun kind run after

def CompletesLabel (kind : Char → Bool) (s : List Char) (captured : List (List Char)) : Prop :=
  ∃ run after, captured = [run] ∧ StartsSpaced kind s run after

def CompletesPartitions (s : List Char) (captured : List (List Char)) : Prop :=
  ∃ digits after, captured = [digits] ∧ StartsSpaced isDigit s digits after ∧ "PPs".toList <:+: after

def CompletesNames (s : List Char) (captured : List (List Char)) : Prop :=
  ∃ volume gap rest group after, captured = [volume, group] ∧
    StartsSpaced isWord s volume (gap ++ ("VOLUME GROUP:".toList ++ rest)) ∧ IsGap gap ∧
    StartsSpaced isWord rest group after

/-- What is captured behind the first label that is completed, if any label is. -/
inductive FirstCompleted (label : List Char) (Completes : List Char → List (List Char) → Prop)
    (line : List Char) : Option (List (List Char)) → Prop
  | matched {before s : List Char} {captured : List (List Char)} : line = before ++ (label ++ s) →
      Completes s captured →
      (∀ earlier t other, line = earlier ++ (label ++ t) → Completes t other → before.length ≤ earlier.length) →
      FirstCompleted label Completes line (some captured)
  | unmatched : (∀ before s captured, line = before ++ (label ++ s) → ¬ Completes s captured) →
      FirstCompleted label Completes line none

structure IsFirst (label before s line : List Char) : Prop where
  here : line = before ++ (label ++ s)
  first : ∀ earlier t, line = earlier ++ (label ++ t) → before.length ≤ earlier.length

/-- What is captured behind the last bracket before a digit, of those behind the first label. -/
inductive LastBracket (label line : List Char) : Option (List (List Char)) → Prop
  | matched {before middle digits after : List Char} :
      IsFirst label before (middle ++ '(' :: (digits ++ after)) line → IsRun isDigit digits after →
      ¬ OpensDigits after → LastBracket label line (some [digits])
  | unopened {before s : List Char} : IsFirst label before s line → ¬ OpensDigits s → LastBracket label line none
  | unlabelled : ¬ label <:+: line → LastBracket label line none

end Report

def GroupRule.pattern : GroupRule → Pattern
  | .name => .labelled isWord "VOLUME GROUP:".toList
  | .totalCapacity => .bracketed "TOTAL PP".toList
  | .unitSize => .labelled isDigit "PP SIZE:".toList
  | .freeCapacity => .bracketed "FREE PP".toList

/-- What the rule captures on a line, if it matches. -/
def GroupRule.Captures : GroupRule → List Char → Option (List (List Char)) → Prop
  | .name, line => FirstCompleted "VOLUME GROUP:".toList (CompletesLabel isWord) line
  | .totalCapacity, line => LastBracket "TOTAL PP".toList line
  | .unitSize, line => FirstCompleted "PP SIZE:".toList (CompletesLabel isDigit) line
  | .freeCapacity, line => LastBracket "FREE PP".toList line

def GroupRule.entry? : GroupRule → List (List Char) → Option GroupEntry
  | .name, captured => (text 0 captured).map .name
  | .totalCapacity, captured => some (.totalCapacity (figure 0 captured))
  | .unitSize, captured => some (.unitSize (figure 0 captured))
  | .freeCapacity, captured => some (.freeCapacity (figure 0 captured))

def VolumeRule.pattern : VolumeRule → Pattern
  | .names => .names
  | .partitions => .partitions
  | .unitSize => .labelled isDigit "PP SIZE:".toList
  | .policy => .labelled isWord "INTER-POLICY:".toList

def VolumeRule.Captures : VolumeRule → List Char → Option (List (List Char)) → Prop
  | .names, line => FirstCompleted "LOGICAL VOLUME:".toList CompletesNames line
  | .partitions, line => FirstCompleted "LPs:".toList CompletesPartitions line
  | .unitSize, line => FirstCompleted "PP SIZE:".toList (CompletesLabel isDigit) line
  | .policy, line => FirstCompleted "INTER-POLICY:".toList (CompletesLabel isWord) line

def VolumeRule.entry? : VolumeRule → List (List Char) → Option VolumeEntry
  | .names, captured => (text 0 captured).bind fun volume => (text 1 captured).map (.names volume)
  | .partitions, captured => some (.partitions (figure 0 captured))
  | .unitSize, captured => some (.unitSize (figure 0 captured))
  | .policy, captured => (text 0 captured).map .policy

/-- A line is read by the first of the rules whose pattern is found on it, and what each pattern captures there is
what its rule says. -/
structure GroupLineCaptured (line : List Char) : Prop where
  captured : ∀ rule : GroupRule, rule.Captures line (rule.pattern.search line)
  entry : GroupEntry.ofLine? line =
    groupTable.rules.findSome? fun rule => (rule.pattern.search line).bind rule.entry?

structure VolumeLineCaptured (line : List Char) : Prop where
  captured : ∀ rule : VolumeRule, rule.Captures line (rule.pattern.search line)
  entry : VolumeEntry.ofLine? line =
    volumeTable.rules.findSome? fun rule => (rule.pattern.search line).bind rule.entry?

section

variable {kind : Char → Bool} {label line s run after : List Char} {captured passed later : List (List Char)}

lemma run?_eq_some_iff : run? kind s = some (run, after) ↔ s = run ++ after ∧ IsRun kind run after := by
  constructor
  · intro h
    obtain ⟨hs, hne, hall⟩ := run?_eq_some h
    refine ⟨hs, hne, hall, fun c hc => ?_⟩
    cases s with
    | nil => cases h
    | cons d s =>
      rw [run?] at h
      split at h
      · cases h
        simpa [hc] using List.head?_dropWhile_not kind s
      · cases h
  · rintro ⟨rfl, hrun⟩
    exact run?_append hrun.nonempty hrun.all hrun.ended

lemma spacedRun?_eq_some_iff (hkind : ∀ c, isBlank c = true → kind c = false) :
    spacedRun? kind s = some (run, after) ↔ StartsSpaced kind s run after := by
  constructor
  · intro h
    obtain ⟨t, ht, hrun⟩ := Option.bind_eq_some_iff.mp h
    obtain ⟨gap, hgap, rfl⟩ := pastBlanks?_eq_some ht
    obtain ⟨rfl, hwhole⟩ := run?_eq_some_iff.mp hrun
    exact ⟨gap, hgap, rfl, hwhole⟩
  · rintro ⟨gap, hgap, rfl, hrun⟩
    exact spacedRun?_gap hkind hgap hrun.nonempty hrun.all hrun.ended

lemma completesLabel_iff (hkind : ∀ c, isBlank c = true → kind c = false) :
    (spacedRun? kind s).map (fun found => [found.1]) = some captured ↔ CompletesLabel kind s captured := by
  simp only [Option.map_eq_some_iff, Prod.exists, spacedRun?_eq_some_iff hkind, CompletesLabel]
  constructor
  · rintro ⟨run, after, hspaced, rfl⟩
    exact ⟨run, after, rfl, hspaced⟩
  · rintro ⟨run, after, rfl, hspaced⟩
    exact ⟨run, after, hspaced, rfl⟩

lemma afterEach_ne_nil_iff : afterEach label s ≠ [] ↔ label <:+: s := by
  constructor
  · intro h
    obtain ⟨t, others, hplaces⟩ := List.exists_cons_of_ne_nil h
    obtain ⟨before, hs⟩ := mem_afterEach.mp (hplaces ▸ List.mem_cons_self)
    exact ⟨before, t, hs.symm⟩
  · rintro ⟨before, t, rfl⟩
    exact List.ne_nil_of_mem (mem_afterEach.mpr ⟨before, rfl⟩)

lemma completesPartitions_iff : (partitionFigure? s).map (fun digits => [digits]) = some captured ↔
    CompletesPartitions s captured := by
  have hfigure (digits : List Char) : partitionFigure? s = some digits ↔
      ∃ after, StartsSpaced isDigit s digits after ∧ "PPs".toList <:+: after := by
    simp only [partitionFigure?, Option.bind_eq_bind, Option.pure_def, Option.bind_eq_some_iff, Prod.exists,
      Option.some.injEq, spacedRun?_eq_some_iff digits_blank]
    constructor
    · rintro ⟨run, after, hspaced, t, ht, rfl⟩
      exact ⟨after, hspaced, afterEach_ne_nil_iff.mp (List.ne_nil_of_mem (List.mem_of_mem_head? ht))⟩
    · rintro ⟨after, hspaced, hphysical⟩
      obtain ⟨t, others, hplaces⟩ := List.exists_cons_of_ne_nil (afterEach_ne_nil_iff.mpr hphysical)
      exact ⟨digits, after, hspaced, t, by rw [hplaces, List.head?_cons], rfl⟩
  simp only [Option.map_eq_some_iff, hfigure, CompletesPartitions]
  constructor
  · rintro ⟨digits, ⟨after, hspaced, hphysical⟩, rfl⟩
    exact ⟨digits, after, rfl, hspaced, hphysical⟩
  · rintro ⟨digits, after, rfl, hspaced, hphysical⟩
    exact ⟨digits, ⟨after, hspaced, hphysical⟩, rfl⟩

lemma ownerName?_eq_some_iff {group : List Char} : ownerName? s = some group ↔
    ∃ gap rest after, s = gap ++ ("VOLUME GROUP:".toList ++ rest) ∧ IsGap gap ∧
      StartsSpaced isWord rest group after := by
  simp only [ownerName?, Option.bind_eq_some_iff, Option.map_eq_some_iff, Prod.exists, after?_eq_some,
    spacedRun?_eq_some_iff fun _ => isWord_of_blank]
  constructor
  · rintro ⟨t, ht, rest, rfl, run, after, hspaced, rfl⟩
    obtain ⟨gap, hgap, rfl⟩ := pastBlanks?_eq_some ht
    exact ⟨gap, rest, after, rfl, hgap, hspaced⟩
  · rintro ⟨gap, rest, after, rfl, hgap, hspaced⟩
    refine ⟨_, pastBlanks?_gap hgap fun c hc => ?_, rest, rfl, group, after, hspaced, rfl⟩
    obtain rfl : 'V' = c := by simpa using hc
    decide +kernel

lemma completesNames_iff : (namePair? s).map (fun pair => [pair.1, pair.2]) = some captured ↔
    CompletesNames s captured := by
  rw [namePair?_eq]
  simp only [Option.map_eq_some_iff, Option.bind_eq_some_iff, Prod.exists, Prod.mk.injEq,
    spacedRun?_eq_some_iff fun _ => isWord_of_blank, ownerName?_eq_some_iff, CompletesNames]
  constructor
  · rintro ⟨_, _, ⟨volume, _, hvolume, group, ⟨gap, rest, after, rfl, hgap, hgroup⟩, rfl, rfl⟩, rfl⟩
    exact ⟨volume, gap, rest, group, after, rfl, hvolume, hgap, hgroup⟩
  · rintro ⟨volume, gap, rest, group, after, rfl, hvolume, hgap, hgroup⟩
    exact ⟨volume, group, ⟨volume, _, hvolume, group, ⟨gap, rest, after, rfl, hgap, hgroup⟩, rfl, rfl⟩, rfl⟩

/-- The places behind a label, the leftmost of them first, leave less and less of the line. -/
lemma afterEach_shrinks (label line : List Char) :
    (afterEach label line).Pairwise fun s later => later.length < s.length := by
  induction line with
  | nil => cases hafter : after? label [] <;> simp [afterEach, hafter]
  | cons c line ih =>
    rw [afterEach]
    cases hafter : after? label (c :: line) with
    | none => exact ih
    | some s =>
      refine List.pairwise_cons.mpr ⟨fun later hlater => ?_, ih⟩
      obtain ⟨before, hline⟩ := mem_afterEach.mp hlater
      have hs := congrArg List.length (after?_eq_some.mp hafter)
      have ht := congrArg List.length hline
      simp only [List.length_append, List.length_cons] at hs ht
      omega

/-- No other place of the label lies to the left of this one, if it is none of those passed. -/
lemma leftmost_of_split (h : afterEach label line = passed ++ s :: later) : ∃ before,
    line = before ++ (label ++ s) ∧ ∀ earlier t, line = earlier ++ (label ++ t) → t ∉ passed →
      before.length ≤ earlier.length := by
  have hshrinks := afterEach_shrinks label line
  rw [h] at hshrinks
  have hlater := (List.pairwise_cons.mp (List.pairwise_append.mp hshrinks).2.1).1
  obtain ⟨before, hline⟩ := mem_afterEach.mp (h ▸ List.mem_append_right passed List.mem_cons_self)
  rw [List.append_assoc] at hline
  refine ⟨before, hline, fun earlier t ht hpassed => ?_⟩
  have hmem : t ∈ passed ++ s :: later := h ▸ mem_afterEach.mpr ⟨earlier, by rw [ht, List.append_assoc]⟩
  have hlength : t.length ≤ s.length := by
    rcases List.mem_cons.mp ((List.mem_append.mp hmem).resolve_left hpassed) with rfl | hmem
    · exact Nat.le_refl _
    · exact Nat.le_of_lt (hlater t hmem)
  have hsame := congrArg List.length (hline.symm.trans ht)
  simp only [List.length_append] at hsame
  omega

lemma firstCompleted {Completes : List Char → List (List Char) → Prop}
    {read : List Char → Option (List (List Char))}
    (hread : ∀ s captured, read s = some captured ↔ Completes s captured) (label line : List Char) :
    FirstCompleted label Completes line ((afterEach label line).findSome? read) := by
  cases hfound : (afterEach label line).findSome? read with
  | none =>
    refine .unmatched fun before s captured hline hcompletes => ?_
    have hnone := List.findSome?_eq_none_iff.mp hfound s
      (mem_afterEach.mpr ⟨before, by rw [hline, List.append_assoc]⟩)
    rw [(hread s captured).mpr hcompletes] at hnone
    cases hnone
  | some captured =>
    obtain ⟨passed, s, later, hplaces, hs, hpassed⟩ := List.findSome?_eq_some_iff.mp hfound
    obtain ⟨before, hline, hleftmost⟩ := leftmost_of_split hplaces
    refine .matched hline ((hread s captured).mp hs) fun earlier t other ht hcompletes => ?_
    refine hleftmost earlier t ht fun hmem => ?_
    cases (hpassed t hmem).symm.trans ((hread t other).mpr hcompletes)

lemma exists_lastBracket (h : OpensDigits s) : ∃ middle digits after,
    s = middle ++ '(' :: (digits ++ after) ∧ IsRun isDigit digits after ∧ ¬ OpensDigits after := by
  induction s with
  | nil =>
    obtain ⟨before, c, rest, hs, _⟩ := h
    simp at hs
  | cons d s ih =>
    by_cases hlater : OpensDigits s
    · obtain ⟨middle, digits, after, rfl, hdigits, hlast⟩ := ih hlater
      exact ⟨d :: middle, digits, after, rfl, hdigits, hlast⟩
    · obtain ⟨before, c, rest, hs, hc⟩ := h
      cases before with
      | cons e before => exact absurd ⟨before, c, rest, (List.cons.inj hs).2, hc⟩ hlater
      | nil =>
        obtain ⟨rfl, rfl⟩ := List.cons.inj hs
        obtain ⟨digits, after, hrun⟩ : ∃ digits after, run? isDigit (c :: rest) = some (digits, after) :=
          ⟨_, _, by rw [run?, if_pos hc]⟩
        obtain ⟨hsplit, hdigits⟩ := run?_eq_some_iff.mp hrun
        rw [hsplit] at hlater ⊢
        exact ⟨[], digits, after, rfl, hdigits, fun hopens => hlater (hopens.of_suffix (List.suffix_append _ _))⟩

lemma lastBracket (label line : List Char) :
    LastBracket label line ((labelledBracket? label line).map fun digits => [digits]) := by
  rw [labelledBracket?]
  cases hplaces : afterEach label line with
  | nil => exact .unlabelled fun hlabel => afterEach_ne_nil_iff.mpr hlabel hplaces
  | cons s others =>
    obtain ⟨before, hline, hleftmost⟩ := leftmost_of_split (hplaces.trans (List.nil_append _).symm)
    have hfirst : IsFirst label before s line :=
      ⟨hline, fun earlier t ht => hleftmost earlier t ht List.not_mem_nil⟩
    rw [List.head?_cons, Option.bind_some]
    by_cases hopens : OpensDigits s
    · obtain ⟨middle, digits, after, rfl, hdigits, hlast⟩ := exists_lastBracket hopens
      rw [bracketed?_last hdigits.nonempty hdigits.all hdigits.ended hlast]
      exact .matched hfirst hdigits hlast
    · rw [bracketed?_eq_none_iff.mpr hopens]
      exact .unopened hfirst hopens

lemma labelled_captured (hkind : ∀ c, isBlank c = true → kind c = false) (label line : List Char) :
    FirstCompleted label (CompletesLabel kind) line ((Pattern.labelled kind label).search line) := by
  rw [search_labelled hkind, labelled?, List.map_findSome?]
  refine firstCompleted (fun s captured => ?_) label line
  rw [Function.comp_apply, Option.map_map]
  exact completesLabel_iff hkind

lemma bracketed_captured (label : List Char) (hline : '\n' ∉ line) :
    LastBracket label line ((Pattern.bracketed label).search line) := by
  rw [search_bracketed label hline]
  exact lastBracket label line

lemma names_captured (line : List Char) :
    FirstCompleted "LOGICAL VOLUME:".toList CompletesNames line (Pattern.names.search line) := by
  rw [search_names, List.map_findSome?]
  exact firstCompleted (fun _ _ => completesNames_iff) _ line

lemma partitions_captured (hline : '\n' ∉ line) :
    FirstCompleted "LPs:".toList CompletesPartitions line (Pattern.partitions.search line) := by
  rw [search_partitions hline, List.map_findSome?]
  exact firstCompleted (fun _ _ => completesPartitions_iff) _ line

lemma groupEntry_searched (hline : '\n' ∉ line) : GroupEntry.ofLine? line =
    groupTable.rules.findSome? fun rule => (rule.pattern.search line).bind rule.entry? := by
  simp only [GroupEntry.ofLine?, groupTable, List.findSome?_cons, List.findSome?_nil, GroupRule.pattern,
    search_labelled fun _ => isWord_of_blank, search_labelled digits_blank, search_bracketed _ hline]
  cases labelled? isWord "VOLUME GROUP:".toList line <;> cases labelledBracket? "TOTAL PP".toList line <;>
    cases labelled? isDigit "PP SIZE:".toList line <;> cases labelledBracket? "FREE PP".toList line <;> rfl

lemma volumeEntry_searched (hline : '\n' ∉ line) : VolumeEntry.ofLine? line =
    volumeTable.rules.findSome? fun rule => (rule.pattern.search line).bind rule.entry? := by
  simp only [VolumeEntry.ofLine?, volumeTable, List.findSome?_cons, List.findSome?_nil, VolumeRule.pattern,
    search_names, search_partitions hline, search_labelled digits_blank, search_labelled fun _ => isWord_of_blank]
  cases (afterEach "LOGICAL VOLUME:".toList line).findSome? namePair? <;>
    cases (afterEach "LPs:".toList line).findSome? partitionFigure? <;>
      cases labelled? isDigit "PP SIZE:".toList line <;>
        cases labelled? isWord "INTER-POLICY:".toList line <;> rfl

end

/-- A line is read as a search with backtracking for the patterns of the rules reads it, and that search captures
whole runs at the places that the rules name. -/
theorem lines_captured_by_rules (line : List Char) (hline : '\n' ∉ line) :
    GroupLineCaptured line ∧ VolumeLineCaptured line := by
  refine ⟨⟨fun rule => ?_, groupEntry_searched hline⟩, ⟨fun rule => ?_, volumeEntry_searched hline⟩⟩
  · cases rule with
    | name => exact labelled_captured (fun _ => isWord_of_blank) _ line
    | totalCapacity => exact bracketed_captured _ hline
    | unitSize => exact labelled_captured digits_blank _ line
    | freeCapacity => exact bracketed_captured _ hline
  · cases rule with
    | names => exact names_captured line
    | partitions => exact partitions_captured hline
    | unitSize => exact labelled_captured digits_blank _ line
    | policy => exact labelled_captured (fun _ => isWord_of_blank) _ line

def crowdedLine : List Char :=
  "TOTAL PPs: (none LPs: none LPs:  16x PPs: 16 TOTAL PP (320 or (12 (MB)".toList

theorem crowded_line_captured : '\n' ∉ crowdedLine ∧
    LastBracket "TOTAL PP".toList crowdedLine (some ["12".toList]) ∧
    FirstCompleted "LPs:".toList CompletesPartitions crowdedLine (some ["16".toList]) := by
  have hline : '\n' ∉ crowdedLine := by decide +kernel
  obtain ⟨hgroup, hvolume⟩ := lines_captured_by_rules crowdedLine hline
  have htotal := hgroup.captured .totalCapacity
  have hpartitions := hvolume.captured .partitions
  have htotalFound : (GroupRule.pattern .totalCapacity).search crowdedLine = some ["12".toList] := by
    decide +kernel
  have hpartitionsFound : (VolumeRule.pattern .partitions).search crowdedLine = some ["16".toList] := by
    decide +kernel
  rw [htotalFound] at htotal
  rw [hpartitionsFound] at hpartitions
  exact ⟨hline, htotal, hpartitions⟩

end LogicalVolumes
