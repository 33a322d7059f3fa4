import LogicalVolumes.Proofs.Report.Label
import LogicalVolumes.Proofs.Report.Scan
import LogicalVolumes.Proofs.Text.Numeral
import LogicalVolumes.Report.Group

/-! The layout of a report on a volume group, in any order of its lines, and what is read from any report. -/

namespace LogicalVolumes

open Report Text

def IsLabelled (p : Char → Bool) (label value line : List Char) : Prop :=
  ∃ before gap after, line = before ++ (label ++ (gap ++ (value ++ after))) ∧ ¬ label <:+: before ∧
    IsGap gap ∧ ∀ c, after.head? = some c → p c = false

def IsBracketed (label value line : List Char) : Prop :=
  ∃ before middle after, line = before ++ (label ++ (middle ++ '(' :: (value ++ after))) ∧
    ¬ label <:+: before ∧ (∀ c, after.head? = some c → isDigit c = false) ∧ ¬ OpensDigits after

def IsGroupNameLine (name line : List Char) : Prop := IsLabelled isWord "VOLUME GROUP:".toList name line

def IsTotalLine (total : Megabytes) (line : List Char) : Prop :=
  ¬ "VOLUME GROUP:".toList <:+: line ∧ IsBracketed "TOTAL PP".toList (numeral total.toNat) line

def IsGroupUnitLine (unitSize : Megabytes) (line : List Char) : Prop :=
  ¬ "VOLUME GROUP:".toList <:+: line ∧ ¬ "TOTAL PP".toList <:+: line ∧
  IsLabelled isDigit "PP SIZE:".toList (numeral unitSize.toNat) line

def IsFreeLine (free : Megabytes) (line : List Char) : Prop :=
  ¬ "VOLUME GROUP:".toList <:+: line ∧ ¬ "TOTAL PP".toList <:+: line ∧ ¬ "PP SIZE:".toList <:+: line ∧
  IsBracketed "FREE PP".toList (numeral free.toNat) line

/-- A complete report: each kind of line is there, and any other line says nothing. -/
structure IsGroupReport (group : GroupFacts) (report : String) : Prop where
  has_name : ∃ line ∈ lines report.toList, IsGroupNameLine group.name.toList line
  has_total : ∃ line ∈ lines report.toList, IsTotalLine group.totalCapacity line
  has_unitSize : ∃ line ∈ lines report.toList, IsGroupUnitLine group.unitSize line
  has_free : ∃ line ∈ lines report.toList, IsFreeLine group.freeCapacity line
  consistent : ∀ line ∈ lines report.toList, IsGroupNameLine group.name.toList line ∨
    IsTotalLine group.totalCapacity line ∨ IsGroupUnitLine group.unitSize line ∨
    IsFreeLine group.freeCapacity line ∨ GroupEntry.ofLine? line = none

namespace GroupEntry

/-- What an entry says about the name; the others likewise. -/
def name? : GroupEntry → Option (Option String)
  | .name word => some (some word)
  | _ => none

def totalCapacity? : GroupEntry → Option (Option Megabytes)
  | .totalCapacity figure => some figure
  | _ => none

def unitSize? : GroupEntry → Option (Option Megabytes)
  | .unitSize figure => some figure
  | _ => none

def freeCapacity? : GroupEntry → Option (Option Megabytes)
  | .freeCapacity figure => some figure
  | _ => none

def ofReport (report : String) : List GroupEntry :=
  (lines report.toList).filterMap ofLine?

end GroupEntry

section Entries

variable {name line : List Char} {total unitSize free : Megabytes}

lemma entry_groupName (hne : name ≠ []) (hword : ∀ c ∈ name, isWord c = true)
    (hline : IsGroupNameLine name line) : GroupEntry.ofLine? line = some (.name (String.ofList name)) := by
  obtain ⟨before, gap, after, rfl, hfirst, hgap, hafter⟩ := hline
  rw [GroupEntry.ofLine?,
    labelled?_first (fun _ => isWord_of_blank) (by decide) hfirst hgap hne hword hafter]
  rfl

lemma entry_total (hline : IsTotalLine total line) :
    GroupEntry.ofLine? line = some (.totalCapacity (some total)) := by
  obtain ⟨hname, before, middle, after, rfl, hfirst, hafter, hlast⟩ := hline
  rw [GroupEntry.ofLine?, labelled?_eq_none hname, labelledBracket?_first (by decide) hfirst
    (numeral_ne_nil total.toNat) (fun _ => isDigit_of_mem_numeral) hafter hlast, Option.map_some,
    readWord_numeral]
  rfl

lemma entry_groupUnitSize (hline : IsGroupUnitLine unitSize line) :
    GroupEntry.ofLine? line = some (.unitSize (some unitSize)) := by
  obtain ⟨hname, htotal, before, gap, after, rfl, hfirst, hgap, hafter⟩ := hline
  rw [GroupEntry.ofLine?, labelled?_eq_none hname, labelledBracket?_eq_none htotal,
    labelled?_first (fun _ => isDigit_of_blank) (by decide) hfirst hgap (numeral_ne_nil unitSize.toNat)
      (fun _ => isDigit_of_mem_numeral) hafter, Option.map_some, readWord_numeral]
  rfl

lemma entry_free (hline : IsFreeLine free line) :
    GroupEntry.ofLine? line = some (.freeCapacity (some free)) := by
  obtain ⟨hname, htotal, hunit, before, middle, after, rfl, hfirst, hafter, hlast⟩ := hline
  rw [GroupEntry.ofLine?, labelled?_eq_none hname, labelledBracket?_eq_none htotal, labelled?_eq_none hunit,
    labelledBracket?_first (by decide) hfirst (numeral_ne_nil free.toNat) (fun _ => isDigit_of_mem_numeral)
      hafter hlast, Option.map_some, readWord_numeral]
  rfl

end Entries

section Record

variable {group : GroupFacts} {report : String} {record : GroupRecord}

lemma GroupRecord.scan_eq (report : String) : GroupRecord.scan report =
    { name := ((GroupEntry.ofReport report).filterMap GroupEntry.name?).getLast?.getD none
      totalCapacity := ((GroupEntry.ofReport report).filterMap GroupEntry.totalCapacity?).getLast?.getD none
      freeCapacity := ((GroupEntry.ofReport report).filterMap GroupEntry.freeCapacity?).getLast?.getD none
      unitSize := ((GroupEntry.ofReport report).filterMap GroupEntry.unitSize?).getLast?.getD none } := by
  have hname := foldl_last note name GroupEntry.name? (by intro r e; cases e <;> rfl)
    (GroupEntry.ofReport report) {}
  have htotal := foldl_last note totalCapacity GroupEntry.totalCapacity? (by intro r e; cases e <;> rfl)
    (GroupEntry.ofReport report) {}
  have hfree := foldl_last note freeCapacity GroupEntry.freeCapacity? (by intro r e; cases e <;> rfl)
    (GroupEntry.ofReport report) {}
  have hunit := foldl_last note unitSize GroupEntry.unitSize? (by intro r e; cases e <;> rfl)
    (GroupEntry.ofReport report) {}
  rw [← hname, ← htotal, ← hfree, ← hunit]
  rfl

def groupSaid (group : GroupFacts) : List GroupEntry :=
  [.name group.name, .totalCapacity (some group.totalCapacity), .unitSize (some group.unitSize),
    .freeCapacity (some group.freeCapacity)]

lemma IsGroupReport.mem_entries (h : IsGroupReport group report) (hname : group.name ≠ "")
    (hword : ∀ c ∈ group.name.toList, isWord c = true) (e : GroupEntry) :
    e ∈ GroupEntry.ofReport report ↔ e ∈ groupSaid group := by
  have hne : group.name.toList ≠ [] := by simpa using hname
  have hentry : ∀ line, IsGroupNameLine group.name.toList line →
      GroupEntry.ofLine? line = some (.name group.name) := by
    intro line hline
    rw [entry_groupName hne hword hline, String.ofList_toList]
  rw [GroupEntry.ofReport, List.mem_filterMap]
  constructor
  · rintro ⟨line, hline, he⟩
    rcases h.consistent line hline with hn | ht | hu | hf | ho
    · simp [groupSaid, ← Option.some.inj (hentry line hn ▸ he)]
    · simp [groupSaid, ← Option.some.inj (entry_total ht ▸ he)]
    · simp [groupSaid, ← Option.some.inj (entry_groupUnitSize hu ▸ he)]
    · simp [groupSaid, ← Option.some.inj (entry_free hf ▸ he)]
    · simp [ho] at he
  · intro he
    simp only [groupSaid, List.mem_cons, List.not_mem_nil, or_false] at he
    rcases he with rfl | rfl | rfl | rfl
    · exact h.has_name.imp fun line hl => ⟨hl.1, hentry line hl.2⟩
    · exact h.has_total.imp fun _ hl => ⟨hl.1, entry_total hl.2⟩
    · exact h.has_unitSize.imp fun _ hl => ⟨hl.1, entry_groupUnitSize hl.2⟩
    · exact h.has_free.imp fun _ hl => ⟨hl.1, entry_free hl.2⟩

/-- The record of a report that says the four things of the group, however often and in whatever order. -/
lemma GroupRecord.scan_of_mem (hmem : ∀ e, e ∈ GroupEntry.ofReport report ↔ e ∈ groupSaid group) :
    GroupRecord.scan report =
      ⟨some group.name, some group.totalCapacity, some group.freeCapacity, some group.unitSize⟩ := by
  rw [GroupRecord.scan_eq]
  congr 1
  · exact said_last hmem _ _ _ (by simp [groupSaid, GroupEntry.name?]) (by simp [groupSaid, GroupEntry.name?])
  · exact said_last hmem _ _ _ (by simp [groupSaid, GroupEntry.totalCapacity?])
      (by simp [groupSaid, GroupEntry.totalCapacity?])
  · exact said_last hmem _ _ _ (by simp [groupSaid, GroupEntry.freeCapacity?])
      (by simp [groupSaid, GroupEntry.freeCapacity?])
  · exact said_last hmem _ _ _ (by simp [groupSaid, GroupEntry.unitSize?])
      (by simp [groupSaid, GroupEntry.unitSize?])

lemma GroupFacts.ofReport_of_mem (hmem : ∀ e, e ∈ GroupEntry.ofReport report ↔ e ∈ groupSaid group)
    (hunit : 0 < group.unitSize) : GroupFacts.ofReport report = .ok (some group) := by
  rw [GroupFacts.ofReport, GroupRecord.scan_of_mem hmem]
  simp [GroupRecord.finish, Option.filter, hunit]

/-- A complete report is read as the facts that it is laid out from. -/
lemma groupFacts_ofReport (h : IsGroupReport group report) (hname : group.name ≠ "")
    (hword : ∀ c ∈ group.name.toList, isWord c = true) (hunit : 0 < group.unitSize) :
    GroupFacts.ofReport report = .ok (some group) :=
  GroupFacts.ofReport_of_mem (h.mem_entries hname hword) hunit

end Record

inductive GroupFinish (record : GroupRecord) : Except Fault (Option GroupFacts) → Prop
  | unnamed : record.name = none → GroupFinish record (.ok none)
  | noUnit {name : String} : record.name = some name → (∀ unit, record.unitSize = some unit → unit = 0) →
      GroupFinish record (.error (.incompleteReport .group name .unitSize))
  | noTotal {name : String} {unit : Megabytes} : record.name = some name → record.unitSize = some unit →
      0 < unit → record.totalCapacity = none →
      GroupFinish record (.error (.incompleteReport .group name .totalPartitions))
  | noFree {name : String} {unit total : Megabytes} : record.name = some name →
      record.unitSize = some unit → 0 < unit → record.totalCapacity = some total →
      record.freeCapacity = none → GroupFinish record (.error (.incompleteReport .group name .freePartitions))
  | complete {group : GroupFacts} : record.name = some group.name → record.unitSize = some group.unitSize →
      0 < group.unitSize → record.totalCapacity = some group.totalCapacity →
      record.freeCapacity = some group.freeCapacity → GroupFinish record (.ok (some group))

section Finish

variable {report : String} {group : GroupFacts} {fault : Fault}

lemma GroupRecord.finish_spec (record : GroupRecord) : GroupFinish record record.finish := by
  rw [GroupRecord.finish]
  cases hname : record.name with
  | none => exact .unnamed hname
  | some name =>
    cases hunit : record.unitSize with
    | none => exact .noUnit hname (by simp [hunit])
    | some unit =>
      by_cases hpos : 0 < unit
      · cases htotal : record.totalCapacity with
        | none => simpa [Option.filter, hpos] using .noTotal hname hunit hpos htotal
        | some total =>
          cases hfree : record.freeCapacity with
          | none => simpa [Option.filter, hpos] using .noFree hname hunit hpos htotal hfree
          | some free => simpa [Option.filter, hpos] using .complete hname hunit hpos htotal hfree
      · have hzero : unit = 0 := by simpa using hpos
        simpa [Option.filter, hpos] using .noUnit hname (by simp [hunit, hzero])

lemma GroupFacts.ofReport_spec (report : String) :
    GroupFinish (GroupRecord.scan report) (GroupFacts.ofReport report) :=
  GroupRecord.finish_spec _

lemma unitSize_pos_of_report (h : GroupFacts.ofReport report = .ok (some group)) : 0 < group.unitSize := by
  have hspec := GroupFacts.ofReport_spec report
  rw [h] at hspec
  cases hspec with | complete _ _ hpos _ _ => exact hpos

lemma groupFault_incomplete (h : GroupFacts.ofReport report = .error fault) :
    ∃ name field, fault = .incompleteReport .group name field := by
  have hspec := GroupFacts.ofReport_spec report
  rw [h] at hspec
  cases hspec <;> exact ⟨_, _, rfl⟩

/-- No line of the report names a group. -/
def NamesNoGroup (report : String) : Prop :=
  ∀ line ∈ lines report.toList, labelled? isWord "VOLUME GROUP:".toList line = none

lemma name?_ofLine? (line : List Char) : (GroupEntry.ofLine? line).bind GroupEntry.name? =
    (labelled? isWord "VOLUME GROUP:".toList line).map fun word => some (String.ofList word) := by
  rw [GroupEntry.ofLine?]
  cases labelled? isWord "VOLUME GROUP:".toList line with
  | some word => rfl
  | none =>
    cases labelledBracket? "TOTAL PP".toList line <;> cases labelled? isDigit "PP SIZE:".toList line <;>
      cases labelledBracket? "FREE PP".toList line <;> rfl

lemma GroupRecord.finish_eq_none {record : GroupRecord} : record.finish = .ok none ↔ record.name = none := by
  constructor
  · intro h
    have hspec := record.finish_spec
    rw [h] at hspec
    cases hspec with | unnamed hname => exact hname
  · intro hname
    rw [GroupRecord.finish, hname]

lemma ofReport_eq_none : GroupFacts.ofReport report = .ok none ↔ NamesNoGroup report := by
  -- whatever names a group sets the field, so it is unset only if nothing does
  rw [GroupFacts.ofReport, GroupRecord.finish_eq_none, GroupRecord.scan_eq, GroupEntry.ofReport,
    List.filterMap_filterMap, getLast?_getD_eq_none, List.filterMap_eq_nil_iff, NamesNoGroup]
  · simp only [name?_ofLine?, Option.map_eq_none_iff]
  · intro w hw
    obtain ⟨line, _, hline⟩ := List.mem_filterMap.mp hw
    rw [name?_ofLine?] at hline
    obtain ⟨word, _, rfl⟩ := Option.map_eq_some_iff.mp hline
    simp

end Finish

end LogicalVolumes
