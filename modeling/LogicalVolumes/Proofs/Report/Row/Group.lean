import LogicalVolumes.Proofs.Report.Layout
import LogicalVolumes.Proofs.Report.Printed
import LogicalVolumes.Proofs.Report.Rule
import Mathlib.Data.List.Basic

/-! The rows of a report on a volume group, with other columns beside them, and the facts that are read from
them. -/

namespace LogicalVolumes

open Report Text

/-- No character of the kind `p` comes first. -/
def EndsRun (p : Char → Bool) (after : List Char) : Prop := ∀ c, after.head? = some c → p c = false

/-- What may stand beside a row of a group's report. -/
structure GroupColumn (s : List Char) : Prop where
  no_name : ¬ "VOLUME GROUP:".toList <:+: s
  no_total : ¬ "TOTAL PP".toList <:+: s
  no_unitSize : ¬ "PP SIZE:".toList <:+: s
  no_free : ¬ "FREE PP".toList <:+: s
  no_figure : ¬ OpensDigits s

def IsGroupNameRow (name line : List Char) : Prop :=
  ∃ before gap after, line = before ++ ("VOLUME GROUP:".toList ++ (gap ++ (name ++ after))) ∧ IsGap gap ∧
    EndsRun isWord after ∧ GroupColumn before ∧ GroupColumn after

def IsGroupUnitRow (unitSize : Megabytes) (line : List Char) : Prop :=
  ∃ before gap after, line = before ++ ("PP SIZE:".toList ++ (gap ++ (numeral unitSize.toNat ++ after))) ∧
    IsGap gap ∧ EndsRun isDigit after ∧ GroupColumn before ∧ GroupColumn after

/-- A count, with blanks around it, and the same capacity in megabytes. -/
def IsCapacityRow (label : List Char) (capacity : Megabytes) (line : List Char) : Prop :=
  ∃ before count after, line = before ++ (label ++ (count ++ '(' :: (numeral capacity.toNat ++
    (" megabytes)".toList ++ after)))) ∧ (∀ c ∈ count, isBlank c = true ∨ isDigit c = true) ∧
    GroupColumn before ∧ GroupColumn after

/-- The report on the group in any order of its rows, among lines that no rule matches. -/
def LaysOutGroup (group : GroupFacts) (report : String) : Prop :=
  ∃ name unitSize total free, IsGroupNameRow group.name.toList name ∧ IsGroupUnitRow group.unitSize unitSize ∧
    IsCapacityRow "TOTAL PPs:".toList group.totalCapacity total ∧
    IsCapacityRow "FREE PPs:".toList group.freeCapacity free ∧
    Shows SaysNothingOfGroup [name, total, unitSize, free] report

section Group

variable {label line name before gap count after : List Char} {c : Char} {unitSize capacity : Megabytes}
  {group : GroupFacts} {report : String}

lemma not_mem_count (hc : isBlank c = false ∧ isDigit c = false)
    (hcount : ∀ c ∈ count, isBlank c = true ∨ isDigit c = true) : c ∉ count := by
  intro hmem
  rcases hcount c hmem with hblank | hdigit
  · exact absurd hblank (by simp [hc.1])
  · exact absurd hdigit (by simp [hc.2])

lemma not_mem_gap (hc : isBlank c = false) (hgap : IsGap gap) : c ∉ gap :=
  fun hmem => absurd (hgap.2 c hmem) (by simp [hc])

lemma not_mem_numeral (hc : isDigit c = false) (n : Nat) : c ∉ numeral n :=
  fun hmem => absurd (isDigit_of_mem_numeral hmem) (by simp [hc])

lemma entry_nameRow (hne : name ≠ []) (hword : ∀ c ∈ name, isWord c = true) (h : IsGroupNameRow name line) :
    GroupEntry.ofLine? line = some (.name (String.ofList name)) := by
  obtain ⟨before, gap, after, rfl, hgap, hafter, hbefore, _⟩ := h
  exact entry_groupName hne hword ⟨before, gap, after, rfl, hbefore.no_name, hgap, hafter⟩

/-- A row with a unit size opens no bracket before a digit, so that no rule on capacities matches it, even
where its label and what stands before it together spell another label. -/
lemma entry_unitRow (h : IsGroupUnitRow unitSize line) :
    GroupEntry.ofLine? line = some (.unitSize (some unitSize)) := by
  obtain ⟨before, gap, after, rfl, hgap, hafter, hbefore, hcolumn⟩ := h
  have hname : ¬ "VOLUME GROUP:".toList <:+:
      before ++ ("PP SIZE:".toList ++ (gap ++ (numeral unitSize.toNat ++ after))) := by
    refine not_infix_beside (c := 'V') hbefore.no_name hcolumn.no_name (by decide) (by decide) ?_
      (numeral_ne_nil _) fun d hd hmem => ?_
    · have hgap := not_mem_gap (c := 'V') (by decide +kernel) hgap
      simp [hgap]
    · have hall : ∀ d ∈ "VOLUME GROUP:".toList, isDigit d = false :=
        List.forall_iff_forall_mem.mp (by decide +kernel)
      exact absurd (isDigit_of_mem_numeral hd) (by simp [hall d hmem])
  have hopens : ¬ OpensDigits (before ++ ("PP SIZE:".toList ++ (gap ++ (numeral unitSize.toNat ++ after)))) := by
    have hgap := not_mem_gap (c := '(') (by decide +kernel) hgap
    have hfigure := not_mem_numeral (c := '(') (by decide +kernel) unitSize.toNat
    have hrest := opensDigits_of_plain (s := "PP SIZE:".toList ++ (gap ++ numeral unitSize.toNat))
      (by simp [hgap, hfigure]) hcolumn.no_figure
    simp only [List.append_assoc] at hrest
    refine opensDigits_append hbefore.no_figure hrest fun _ c hc => ?_
    obtain rfl : 'P' = c := by simpa using hc
    decide +kernel
  have hno : ∀ label, ¬ HasBracket label
      (before ++ ("PP SIZE:".toList ++ (gap ++ (numeral unitSize.toNat ++ after)))) := by
    rintro label ⟨front, rest, heq, hrest⟩
    exact hopens (hrest.of_suffix ⟨front ++ label, by rw [heq, List.append_assoc]⟩)
  rw [GroupEntry.ofLine?, labelled?_eq_none hname, labelledBracket?_eq_none_iff.mpr (hno _),
    labelled?_first digits_blank (by decide) hbefore.no_unitSize hgap (numeral_ne_nil unitSize.toNat)
      (fun _ => isDigit_of_mem_numeral) hafter, Option.map_some, readWord_numeral]
  rfl

/-- Neither the count nor the capacity completes a label that the columns do not hold. -/
lemma not_infix_capacityRow {stem : List Char} (hapart : Apart stem label) (hc : c ∈ stem)
    (hplain : isBlank c = false ∧ isDigit c = false ∧ c ∉ label ∧ c ∉ "( megabytes".toList)
    (hclose : ')' ∉ stem) (hcount : ∀ c ∈ count, isBlank c = true ∨ isDigit c = true)
    (hbefore : ¬ stem <:+: before) (hafter : ¬ stem <:+: after) :
    ¬ stem <:+: before ++ (label ++ (count ++ '(' ::
      (numeral capacity.toNat ++ (" megabytes)".toList ++ after)))) := by
  obtain ⟨hblank, hdigit, hlabel, hunit⟩ := hplain
  have hmissing : c ∉ label ++ (count ++ '(' :: (numeral capacity.toNat ++ " megabytes".toList)) := by
    have hcount := not_mem_count ⟨hblank, hdigit⟩ hcount
    have hfigure := not_mem_numeral hdigit capacity.toNat
    simp_all
  have hline := not_infix_columns [] hbefore hafter hapart hc hmissing hclose (by simp)
  simpa using hline

lemma entry_totalRow (h : IsCapacityRow "TOTAL PPs:".toList capacity line) :
    GroupEntry.ofLine? line = some (.totalCapacity (some capacity)) := by
  obtain ⟨before, count, after, rfl, hcount, hbefore, hafter⟩ := h
  refine entry_total ⟨?_, before, "s:".toList ++ count, " megabytes)".toList ++ after, by simp,
    hbefore.no_total, ?_, ?_⟩
  · exact not_infix_capacityRow (c := 'V') (by decide) (by decide) (by decide +kernel) (by decide) hcount
      hbefore.no_name hafter.no_name
  · intro c hc
    obtain rfl : ' ' = c := by simpa using hc
    decide +kernel
  · exact opensDigits_of_plain (by decide) hafter.no_figure

lemma entry_freeRow (h : IsCapacityRow "FREE PPs:".toList capacity line) :
    GroupEntry.ofLine? line = some (.freeCapacity (some capacity)) := by
  obtain ⟨before, count, after, rfl, hcount, hbefore, hafter⟩ := h
  refine entry_free ⟨?_, ?_, ?_, before, "s:".toList ++ count, " megabytes)".toList ++ after, by simp,
    hbefore.no_free, ?_, ?_⟩
  · exact not_infix_capacityRow (c := 'V') (by decide) (by decide) (by decide +kernel) (by decide) hcount
      hbefore.no_name hafter.no_name
  · exact not_infix_capacityRow (c := 'T') (by decide) (by decide) (by decide +kernel) (by decide) hcount
      hbefore.no_total hafter.no_total
  · exact not_infix_capacityRow (c := 'S') (by decide) (by decide) (by decide +kernel) (by decide) hcount
      hbefore.no_unitSize hafter.no_unitSize
  · intro c hc
    obtain rfl : ' ' = c := by simpa using hc
    decide +kernel
  · exact opensDigits_of_plain (by decide) hafter.no_figure

lemma ofReport_laidOutGroup (hname : IsName group.name) (hunit : 0 < group.unitSize)
    (h : LaysOutGroup group report) : GroupFacts.ofReport report = .ok (some group) := by
  obtain ⟨nameRow, unitRow, totalRow, freeRow, hnameRow, hunitRow, htotalRow, hfreeRow, hshows⟩ := h
  have hne : group.name.toList ≠ [] := by simpa using hname.1
  have hentries := hshows.entries GroupEntry.ofLine? fun line => groupEntry_eq_none_iff.mpr
  have hrows : [nameRow, totalRow, unitRow, freeRow].filterMap GroupEntry.ofLine? = groupSaid group := by
    simp [groupSaid, entry_nameRow hne hname.2 hnameRow, entry_unitRow hunitRow, entry_totalRow htotalRow,
      entry_freeRow hfreeRow]
  rw [hrows] at hentries
  exact GroupFacts.ofReport_of_mem (fun _ => hentries.mem_iff) hunit

end Group

end LogicalVolumes
