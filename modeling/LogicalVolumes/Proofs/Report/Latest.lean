import LogicalVolumes.Proofs.Report.Group
import LogicalVolumes.Proofs.Report.Volume

/-! Each field of a record is read from the last line that the field's rule consumes. A line is consumed by the
first rule that matches it, and so hidden from the rules behind that one. -/

namespace LogicalVolumes

open Text

namespace Report

/-- Rules in the order in which a line is offered to them, each with what it captures on a line it matches. -/
structure RuleTable (ρ : Type) where
  rules : List ρ
  captures? : ρ → List Char → Option (List (List Char))

def text (i : Nat) (captured : List (List Char)) : Option String := captured[i]?.map String.ofList

/-- The captured text with this index as a figure; one that is out of range counts as none. -/
def figure (i : Nat) (captured : List (List Char)) : Option UInt64 := captured[i]?.bind readWord

namespace RuleTable

variable {ρ β : Type} (table : RuleTable ρ)

/-- The rule is the first of the table that matches the line, and this is what it captures there. -/
def FirstMatch (line : List Char) (rule : ρ) (captured : List (List Char)) : Prop :=
  ∃ passed rest, table.rules = passed ++ rule :: rest ∧ table.captures? rule line = some captured ∧
    ∀ earlier ∈ passed, table.captures? earlier line = none

def Consumes (rule : ρ) (line : List Char) : Prop := ∃ captured, table.FirstMatch line rule captured

def Ignores (line : List Char) : Prop := ∀ rule ∈ table.rules, table.captures? rule line = none

/-- The value is what `read` makes of the last of these lines that the rule consumes, or `blank` when it consumes
none of them. -/
structure ReadLast (rule : ρ) (read : List (List Char) → β) (blank : β) (all : List (List Char)) (value : β) :
    Prop where
  unset : (∀ line ∈ all, ¬ table.Consumes rule line) → value = blank
  last : ∀ before line after captured, all = before ++ line :: after → table.FirstMatch line rule captured →
    (∀ later ∈ after, ¬ table.Consumes rule later) → value = read captured

def ConsumesOnce (all : List (List Char)) : Prop :=
  all.Pairwise fun line later => ∀ rule, table.Consumes rule line → ¬ table.Consumes rule later

/-- From some lines to others: in another order, and with lines that no rule matches put in or left out. -/
inductive Rearranged : List (List Char) → List (List Char) → Prop
  | reorder {all other : List (List Char)} : all.Perm other → Rearranged all other
  | insert {before after : List (List Char)} {line : List Char} : table.Ignores line →
      Rearranged (before ++ after) (before ++ line :: after)
  | remove {before after : List (List Char)} {line : List Char} : table.Ignores line →
      Rearranged (before ++ line :: after) (before ++ after)
  | trans {all middle other : List (List Char)} : Rearranged all middle → Rearranged middle other →
      Rearranged all other

def firstMatch? (line : List Char) : Option (ρ × List (List Char)) :=
  table.rules.findSome? fun rule => (table.captures? rule line).map fun captured => (rule, captured)

def capturedBy? [DecidableEq ρ] (rule : ρ) (line : List Char) : Option (List (List Char)) :=
  (table.firstMatch? line).bind fun found => if found.1 = rule then some found.2 else none

section

variable {table} {line : List Char} {rule : ρ} {captured : List (List Char)} {all other : List (List Char)}

lemma firstMatch?_eq_some :
    table.firstMatch? line = some (rule, captured) ↔ table.FirstMatch line rule captured := by
  simp only [firstMatch?, List.findSome?_eq_some_iff, Option.map_eq_some_iff, Option.map_eq_none_iff,
    Prod.mk.injEq]
  constructor
  · rintro ⟨passed, _, rest, hrules, ⟨_, hcaptured, rfl, rfl⟩, hpassed⟩
    exact ⟨passed, rest, hrules, hcaptured, hpassed⟩
  · rintro ⟨passed, rest, hrules, hcaptured, hpassed⟩
    exact ⟨passed, rule, rest, hrules, ⟨captured, hcaptured, rfl, rfl⟩, hpassed⟩

lemma Ignores.not_consumes (h : table.Ignores line) : ¬ table.Consumes rule line := by
  rintro ⟨captured, passed, rest, hrules, hcaptured, _⟩
  rw [h rule (by simp [hrules])] at hcaptured
  cases hcaptured

variable [DecidableEq ρ]

lemma capturedBy?_eq_some :
    table.capturedBy? rule line = some captured ↔ table.FirstMatch line rule captured := by
  rw [← firstMatch?_eq_some, capturedBy?, Option.bind_eq_some_iff]
  constructor
  · rintro ⟨⟨found, texts⟩, hfound, h⟩
    split at h
    · next heq =>
      cases heq
      cases h
      exact hfound
    · cases h
  · exact fun h => ⟨_, h, if_pos rfl⟩

lemma capturedBy?_eq_none : table.capturedBy? rule line = none ↔ ¬ table.Consumes rule line := by
  simp only [Consumes, ← capturedBy?_eq_some, Option.eq_none_iff_forall_ne_some, not_exists, ne_eq]

variable {said : List Char → Option β} {read : List (List Char) → β}
  (hsaid : ∀ line, said line = (table.capturedBy? rule line).map read)

include hsaid

lemma said_eq_none : said line = none ↔ ¬ table.Consumes rule line := by
  rw [hsaid, Option.map_eq_none_iff, capturedBy?_eq_none]

lemma consumes_of_said {value : β} (h : said line = some value) : table.Consumes rule line := by
  rw [hsaid] at h
  obtain ⟨captured, hcaptured, _⟩ := Option.map_eq_some_iff.mp h
  exact ⟨captured, capturedBy?_eq_some.mp hcaptured⟩

lemma filterMap_said_eq_nil : all.filterMap said = [] ↔ ∀ line ∈ all, ¬ table.Consumes rule line := by
  simp only [List.filterMap_eq_nil_iff, said_eq_none hsaid]

lemma readLast (blank : β) (all : List (List Char)) :
    table.ReadLast rule read blank all ((all.filterMap said).getLast?.getD blank) where
  unset hnone := by
    rw [(filterMap_said_eq_nil hsaid).mpr hnone]
    rfl
  last before line after captured hall hmatch hlater := by
    have hvalue : said line = some (read captured) := by
      rw [hsaid, capturedBy?_eq_some.mpr hmatch, Option.map_some]
    rw [hall, List.filterMap_append, List.filterMap_cons_some hvalue,
      (filterMap_said_eq_nil hsaid).mpr hlater, List.getLast?_concat, Option.getD_some]

lemma filterMap_said_ignored (hline : table.Ignores line) (before after : List (List Char)) :
    (before ++ line :: after).filterMap said = (before ++ after).filterMap said := by
  have hnone := (said_eq_none hsaid).mpr hline.not_consumes
  rw [List.filterMap_append, List.filterMap_cons_none hnone, ← List.filterMap_append]

lemma Rearranged.perm (h : table.Rearranged all other) : (all.filterMap said).Perm (other.filterMap said) := by
  induction h with
  | reorder hperm => exact hperm.filterMap said
  | insert hline => rw [filterMap_said_ignored hsaid hline]
  | remove hline => rw [filterMap_said_ignored hsaid hline]
  | trans _ _ ihall ihother => exact ihall.trans ihother

lemma ConsumesOnce.said_once (h : table.ConsumesOnce all) : (all.filterMap said).length ≤ 1 := by
  have hnever : (all.filterMap said).Pairwise fun _ _ => False := by
    rw [List.pairwise_filterMap]
    refine h.imp fun {line later} hone x hx y hy => ?_
    exact hone rule (consumes_of_said hsaid hx) (consumes_of_said hsaid hy)
  match hall : all.filterMap said with
  | [] => simp
  | [x] => simp
  | x :: y :: rest =>
    rw [hall, List.pairwise_cons] at hnever
    exact (hnever.1 y List.mem_cons_self).elim

lemma said_unchanged (honce : table.ConsumesOnce all) (h : table.Rearranged all other) :
    other.filterMap said = all.filterMap said := by
  have hperm := h.perm hsaid
  have hlength := honce.said_once hsaid
  -- of one thing that is said there is only one order
  match hall : all.filterMap said with
  | [] => exact List.nil_perm.mp (hall ▸ hperm)
  | [x] => exact (List.singleton_perm.mp (hall ▸ hperm)).symm
  | x :: y :: rest => simp [hall] at hlength

end

end RuleTable

end Report

open Report

section Group

inductive GroupRule
  | name
  | totalCapacity
  | unitSize
  | freeCapacity
  deriving DecidableEq

def groupTable : RuleTable GroupRule where
  rules := [.name, .totalCapacity, .unitSize, .freeCapacity]
  captures?
    | .name, line => (labelled? isWord "VOLUME GROUP:".toList line).map fun word => [word]
    | .totalCapacity, line => (labelledBracket? "TOTAL PP".toList line).map fun digits => [digits]
    | .unitSize, line => (labelled? isDigit "PP SIZE:".toList line).map fun digits => [digits]
    | .freeCapacity, line => (labelledBracket? "FREE PP".toList line).map fun digits => [digits]

structure GroupReadFromLast (report : String) : Prop where
  name : groupTable.ReadLast .name (text 0) none (lines report.toList) (GroupRecord.scan report).name
  totalCapacity : groupTable.ReadLast .totalCapacity (figure 0) none (lines report.toList)
    (GroupRecord.scan report).totalCapacity
  unitSize : groupTable.ReadLast .unitSize (figure 0) none (lines report.toList)
    (GroupRecord.scan report).unitSize
  freeCapacity : groupTable.ReadLast .freeCapacity (figure 0) none (lines report.toList)
    (GroupRecord.scan report).freeCapacity
  rearranged : groupTable.ConsumesOnce (lines report.toList) → ∀ other : String,
    groupTable.Rearranged (lines report.toList) (lines other.toList) →
      GroupRecord.scan other = GroupRecord.scan report ∧ GroupFacts.ofReport other = GroupFacts.ofReport report

structure GroupEntryCaptured (line : List Char) : Prop where
  name : (GroupEntry.ofLine? line).bind GroupEntry.name? = (groupTable.capturedBy? .name line).map (text 0)
  totalCapacity : (GroupEntry.ofLine? line).bind GroupEntry.totalCapacity? =
    (groupTable.capturedBy? .totalCapacity line).map (figure 0)
  unitSize : (GroupEntry.ofLine? line).bind GroupEntry.unitSize? =
    (groupTable.capturedBy? .unitSize line).map (figure 0)
  freeCapacity : (GroupEntry.ofLine? line).bind GroupEntry.freeCapacity? =
    (groupTable.capturedBy? .freeCapacity line).map (figure 0)

lemma groupEntry_captured (line : List Char) : GroupEntryCaptured line := by
  -- which of the four rules match settles both sides, whatever they capture
  constructor <;> simp only [GroupEntry.ofLine?, RuleTable.capturedBy?, RuleTable.firstMatch?, groupTable,
    List.findSome?_cons, List.findSome?_nil] <;>
    cases labelled? isWord "VOLUME GROUP:".toList line <;> cases labelledBracket? "TOTAL PP".toList line <;>
      cases labelled? isDigit "PP SIZE:".toList line <;> cases labelledBracket? "FREE PP".toList line <;> rfl

lemma groupRead_from_last (report : String) : GroupReadFromLast report := by
  have hscan := GroupRecord.scan_eq report
  simp only [GroupEntry.ofReport, List.filterMap_filterMap] at hscan
  refine ⟨?_, ?_, ?_, ?_, ?_⟩
  · rw [hscan]
    exact RuleTable.readLast (fun line => (groupEntry_captured line).name) none _
  · rw [hscan]
    exact RuleTable.readLast (fun line => (groupEntry_captured line).totalCapacity) none _
  · rw [hscan]
    exact RuleTable.readLast (fun line => (groupEntry_captured line).unitSize) none _
  · rw [hscan]
    exact RuleTable.readLast (fun line => (groupEntry_captured line).freeCapacity) none _
  · intro honce other hother
    have hsame : GroupRecord.scan other = GroupRecord.scan report := by
      rw [hscan, GroupRecord.scan_eq]
      simp only [GroupEntry.ofReport, List.filterMap_filterMap,
        RuleTable.said_unchanged (fun line => (groupEntry_captured line).name) honce hother,
        RuleTable.said_unchanged (fun line => (groupEntry_captured line).totalCapacity) honce hother,
        RuleTable.said_unchanged (fun line => (groupEntry_captured line).unitSize) honce hother,
        RuleTable.said_unchanged (fun line => (groupEntry_captured line).freeCapacity) honce hother]
    exact ⟨hsame, by rw [GroupFacts.ofReport, hsame, GroupFacts.ofReport]⟩

end Group

section Volume

inductive VolumeRule
  | names
  | partitions
  | unitSize
  | policy
  deriving DecidableEq

def volumeTable : RuleTable VolumeRule where
  rules := [.names, .partitions, .unitSize, .policy]
  captures?
    | .names, line => ((afterEach "LOGICAL VOLUME:".toList line).findSome? namePair?).map fun pair =>
        [pair.1, pair.2]
    | .partitions, line => ((afterEach "LPs:".toList line).findSome? partitionFigure?).map fun digits =>
        [digits]
    | .unitSize, line => (labelled? isDigit "PP SIZE:".toList line).map fun digits => [digits]
    | .policy, line => (labelled? isWord "INTER-POLICY:".toList line).map fun word => [word]

def bothNames (captured : List (List Char)) : Option String × Option String :=
  (text 0 captured, text 1 captured)

/-- What the record and the facts of a report owe to its lines. The two names are one value, as they come from one
line. -/
structure VolumeReadFromLast (report : String) : Prop where
  names : volumeTable.ReadLast .names bothNames (none, none) (lines report.toList)
    ((VolumeRecord.scan report).name, (VolumeRecord.scan report).groupName)
  names_together : (VolumeRecord.scan report).name.isSome = (VolumeRecord.scan report).groupName.isSome
  partitions : volumeTable.ReadLast .partitions (figure 0) none (lines report.toList)
    (VolumeRecord.scan report).partitions
  unitSize : volumeTable.ReadLast .unitSize (figure 0) none (lines report.toList)
    (VolumeRecord.scan report).unitSize
  policy : volumeTable.ReadLast .policy (text 0) none (lines report.toList) (VolumeRecord.scan report).policy
  rearranged : volumeTable.ConsumesOnce (lines report.toList) → ∀ other : String,
    volumeTable.Rearranged (lines report.toList) (lines other.toList) →
      VolumeRecord.scan other = VolumeRecord.scan report ∧
        VolumeFacts.ofReport other = VolumeFacts.ofReport report

structure VolumeEntryCaptured (line : List Char) : Prop where
  names : (VolumeEntry.ofLine? line).bind VolumeEntry.names? =
    (volumeTable.capturedBy? .names line).map bothNames
  partitions : (VolumeEntry.ofLine? line).bind VolumeEntry.partitions? =
    (volumeTable.capturedBy? .partitions line).map (figure 0)
  unitSize : (VolumeEntry.ofLine? line).bind VolumeEntry.unitSize? =
    (volumeTable.capturedBy? .unitSize line).map (figure 0)
  policy : (VolumeEntry.ofLine? line).bind VolumeEntry.policy? =
    (volumeTable.capturedBy? .policy line).map (text 0)

lemma volumeEntry_captured (line : List Char) : VolumeEntryCaptured line := by
  constructor <;> simp only [VolumeEntry.ofLine?, RuleTable.capturedBy?, RuleTable.firstMatch?, volumeTable,
    List.findSome?_cons, List.findSome?_nil] <;>
    cases (afterEach "LOGICAL VOLUME:".toList line).findSome? namePair? <;>
      cases (afterEach "LPs:".toList line).findSome? partitionFigure? <;>
        cases labelled? isDigit "PP SIZE:".toList line <;>
          cases labelled? isWord "INTER-POLICY:".toList line <;> rfl

lemma volumeNames_together (report : String) :
    (VolumeRecord.scan report).name.isSome = (VolumeRecord.scan report).groupName.isSome := by
  rw [VolumeRecord.scan_eq]
  cases hlast : ((VolumeEntry.ofReport report).filterMap VolumeEntry.names?).getLast? with
  | none => rfl
  | some names =>
    obtain ⟨e, _, he⟩ := List.mem_filterMap.mp (List.mem_of_getLast? hlast)
    cases e with
    | names volume group =>
      cases he
      rfl
    | partitions _ => cases he
    | unitSize _ => cases he
    | policy _ => cases he

lemma volumeRead_from_last (report : String) : VolumeReadFromLast report := by
  have hscan := VolumeRecord.scan_eq report
  simp only [VolumeEntry.ofReport, List.filterMap_filterMap] at hscan
  refine ⟨?_, volumeNames_together report, ?_, ?_, ?_, ?_⟩
  · rw [hscan]
    exact RuleTable.readLast (fun line => (volumeEntry_captured line).names) (none, none) _
  · rw [hscan]
    exact RuleTable.readLast (fun line => (volumeEntry_captured line).partitions) none _
  · rw [hscan]
    exact RuleTable.readLast (fun line => (volumeEntry_captured line).unitSize) none _
  · rw [hscan]
    exact RuleTable.readLast (fun line => (volumeEntry_captured line).policy) none _
  · intro honce other hother
    have hsame : VolumeRecord.scan other = VolumeRecord.scan report := by
      rw [hscan, VolumeRecord.scan_eq]
      simp only [VolumeEntry.ofReport, List.filterMap_filterMap,
        RuleTable.said_unchanged (fun line => (volumeEntry_captured line).names) honce hother,
        RuleTable.said_unchanged (fun line => (volumeEntry_captured line).partitions) honce hother,
        RuleTable.said_unchanged (fun line => (volumeEntry_captured line).unitSize) honce hother,
        RuleTable.said_unchanged (fun line => (volumeEntry_captured line).policy) honce hother]
    exact ⟨hsame, by rw [VolumeFacts.ofReport, hsame, VolumeFacts.ofReport]⟩

end Volume

/-- Nothing of an earlier line stays behind a later one, and where no two lines compete, neither their order nor
the other lines between them matter. -/
theorem reports_read_from_last (report : String) : GroupReadFromLast report ∧ VolumeReadFromLast report :=
  ⟨groupRead_from_last report, volumeRead_from_last report⟩

/-- A figure beyond 64 bits clears the one before it, and a line that names a group is not read for its figure. -/
example : GroupRecord.scan ("PP SIZE: 64\nTOTAL PPs: 5 (320 megabytes)\n" ++
    "TOTAL PPs: 5 (18446744073709551616 megabytes)\nVOLUME GROUP: datavg PP SIZE: 128") =
      { name := some "datavg", unitSize := some 64 } := by
  decide +kernel

end LogicalVolumes
