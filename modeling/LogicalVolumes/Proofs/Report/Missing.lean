import LogicalVolumes.Proofs.Report.Latest
import LogicalVolumes.Proofs.Report.Rule

/-! When a report is about nothing, for which field it is refused, and when it gives facts. -/

namespace LogicalVolumes

open Report Text

/-- Of the fields that are looked at in this order, this one is the first that is not there. -/
def FirstMissing (there : ReportField → Prop) (order : List ReportField) (field : ReportField) : Prop :=
  ∃ passed rest, order = passed ++ field :: rest ∧ (∀ earlier ∈ passed, there earlier) ∧ ¬ there field

/-- The result of a reading that found `name?`: nothing, the first fault, or the facts that it gives. -/
structure FailsClosed {α : Type} (kind : ReportKind) (name? : Option String) (there : ReportField → Prop)
    (order : List ReportField) (fits : Prop) (gives : α → Prop) (result : Except Fault (Option α)) : Prop where
  about_none : result = .ok none ↔ name? = none
  incomplete : ∀ name field, result = .error (.incompleteReport kind name field) ↔
    name? = some name ∧ FirstMissing there order field
  out_of_range : ∀ name field, result = .error (.figureOutOfRange kind name field) ↔
    field = .logicalPartitions ∧ name? = some name ∧ (∀ f ∈ order, there f) ∧ ¬ fits
  complete : ∀ facts, result = .ok (some facts) ↔ gives facts
  complete_iff : (∃ facts, result = .ok (some facts)) ↔
    (∃ name, name? = some name) ∧ (∀ f ∈ order, there f) ∧ fits
  no_other_fault : ∀ fault, result = .error fault → ∃ name field,
    fault = .incompleteReport kind name field ∨ fault = .figureOutOfRange kind name field

section Order

variable {there : ReportField → Prop} {order : List ReportField} {first field other : ReportField}

lemma firstMissing_cons : FirstMissing there (first :: order) field ↔
    (field = first ∧ ¬ there first) ∨ (there first ∧ FirstMissing there order field) := by
  constructor
  · rintro ⟨passed, rest, heq, hpassed, hmissing⟩
    cases passed with
    | nil =>
      obtain ⟨rfl, _⟩ := List.cons.inj heq
      exact .inl ⟨rfl, hmissing⟩
    | cons earlier passed =>
      obtain ⟨rfl, hrest⟩ := List.cons.inj heq
      obtain ⟨hfirst, hpassed⟩ := List.forall_mem_cons.mp hpassed
      exact .inr ⟨hfirst, passed, rest, hrest, hpassed, hmissing⟩
  · rintro (⟨rfl, hmissing⟩ | ⟨hfirst, passed, rest, rfl, hpassed, hmissing⟩)
    · exact ⟨[], order, rfl, by simp, hmissing⟩
    · exact ⟨first :: passed, rest, rfl, List.forall_mem_cons.mpr ⟨hfirst, hpassed⟩, hmissing⟩

lemma FirstMissing.unique (h : FirstMissing there order field) (h' : FirstMissing there order other) :
    field = other := by
  induction order with
  | nil =>
    obtain ⟨passed, rest, heq, _⟩ := h
    simp at heq
  | cons first order ih =>
    rcases firstMissing_cons.mp h with ⟨rfl, hmissing⟩ | ⟨hfirst, hrest⟩
    · rcases firstMissing_cons.mp h' with ⟨rfl, _⟩ | ⟨hthere, _⟩
      · rfl
      · exact absurd hthere hmissing
    · rcases firstMissing_cons.mp h' with ⟨_, hmissing⟩ | ⟨_, hrest'⟩
      · exact absurd hfirst hmissing
      · exact ih hrest hrest'

lemma FirstMissing.not_all (h : FirstMissing there order field) : ¬ ∀ f ∈ order, there f := by
  obtain ⟨passed, rest, rfl, _, hmissing⟩ := h
  intro hall
  exact hmissing (hall field (by simp))

end Order

section Reading

variable {α : Type} {kind : ReportKind} {name? : Option String} {there : ReportField → Prop}
  {order : List ReportField} {fits : Prop} {gives : α → Prop} {result : Except Fault (Option α)}

inductive Situation (kind : ReportKind) (name? : Option String) (there : ReportField → Prop)
    (order : List ReportField) (fits : Prop) (gives : α → Prop) : Except Fault (Option α) → Prop
  | unnamed : name? = none → Situation kind name? there order fits gives (.ok none)
  | incomplete {name : String} {field : ReportField} : name? = some name → FirstMissing there order field →
      Situation kind name? there order fits gives (.error (.incompleteReport kind name field))
  | outOfRange {name : String} : name? = some name → (∀ f ∈ order, there f) → ¬ fits →
      Situation kind name? there order fits gives (.error (.figureOutOfRange kind name .logicalPartitions))
  | complete {name : String} {facts : α} : name? = some name → (∀ f ∈ order, there f) → fits → gives facts →
      Situation kind name? there order fits gives (.ok (some facts))

lemma Situation.failsClosed (h : Situation kind name? there order fits gives result)
    (hgives : ∀ facts, gives facts → (∃ name, name? = some name) ∧ (∀ f ∈ order, there f) ∧ fits)
    (hunique : ∀ facts other, gives facts → gives other → facts = other) :
    FailsClosed kind name? there order fits gives result := by
  -- the situations exclude each other, so that each result tells which one it was
  have hmissing : ∀ field, (∀ f ∈ order, there f) → ¬ FirstMissing there order field :=
    fun field hall hfirst => hfirst.not_all hall
  cases h with
  | unnamed hname =>
    have hnever : ∀ facts, ¬ gives facts := by
      intro facts hfacts
      obtain ⟨⟨name, hsome⟩, _⟩ := hgives facts hfacts
      cases hname.symm.trans hsome
    constructor <;> simp [hname, hnever]
  | @incomplete name field hname hfirst =>
    have hnever : ∀ facts, ¬ gives facts := fun facts hfacts => hfirst.not_all (hgives facts hfacts).2.1
    have hfield : ∀ other, FirstMissing there order other ↔ field = other := by
      intro other
      constructor
      · exact hfirst.unique
      · rintro rfl
        exact hfirst
    constructor <;> simp [hname, hnever, hfield, hfirst.not_all]
  | @outOfRange name hname hall hfits =>
    have hnever : ∀ facts, ¬ gives facts := fun facts hfacts => hfits (hgives facts hfacts).2.2
    refine ⟨by simp [hname], by simp [hmissing _ hall], ?_, by simp [hnever], by simp [hfits], by simp⟩
    intro other field
    constructor
    · rintro ⟨⟩
      exact ⟨rfl, hname, hall, hfits⟩
    · rintro ⟨rfl, hother, _⟩
      cases hname.symm.trans hother
      rfl
  | @complete name facts hname hall hfits hfacts =>
    have hsame : ∀ other, gives other ↔ facts = other := by
      intro other
      constructor
      · exact hunique facts other hfacts
      · rintro rfl
        exact hfacts
    have hsome : (∃ name, name? = some name) ∧ (∀ f ∈ order, there f) ∧ fits := ⟨⟨name, hname⟩, hall, hfits⟩
    exact ⟨by simp [hname], by simp [hmissing _ hall], by simp [hfits], by simp [hsame],
      iff_of_true ⟨facts, rfl⟩ hsome, by simp⟩

end Reading

/-- The word is one for the policy, in any letter case and with blanks around it. -/
def IsPolicyWord (word : String) (policy : PlacementPolicy) : Prop :=
  lowercase (trim word.toList) = policy.word.toList

section Group

def groupOrder : List ReportField := [.unitSize, .totalPartitions, .freePartitions]

/-- The record has what the reading needs of the field; a unit of no size is none. -/
def GroupRecord.Has (record : GroupRecord) : ReportField → Prop
  | .unitSize => ∃ unit, record.unitSize = some unit ∧ 0 < unit
  | .totalPartitions => record.totalCapacity ≠ none
  | .freePartitions => record.freeCapacity ≠ none
  | _ => True

def GroupRecord.Gives (record : GroupRecord) (facts : GroupFacts) : Prop :=
  record = ⟨some facts.name, some facts.totalCapacity, some facts.freeCapacity, some facts.unitSize⟩ ∧
    0 < facts.unitSize

variable {record : GroupRecord} {facts other : GroupFacts}

lemma GroupRecord.Gives.complete (h : record.Gives facts) :
    (∃ name, record.name = some name) ∧ (∀ f ∈ groupOrder, record.Has f) ∧ True := by
  obtain ⟨rfl, hunit⟩ := h
  simp [groupOrder, GroupRecord.Has, hunit]

lemma GroupRecord.Gives.unique (h : record.Gives facts) (h' : record.Gives other) : facts = other := by
  obtain ⟨rfl, _⟩ := h
  obtain ⟨hsame, _⟩ := h'
  simp only [GroupRecord.mk.injEq, Option.some.injEq] at hsame
  obtain ⟨hname, htotal, hfree, hunit⟩ := hsame
  cases facts
  cases other
  simp_all

lemma GroupRecord.situation (record : GroupRecord) :
    Situation .group record.name record.Has groupOrder True record.Gives record.finish := by
  have hspec := record.finish_spec
  generalize record.finish = result at hspec ⊢
  cases hspec with
  | unnamed hname => exact .unnamed hname
  | noUnit hname hunit =>
    refine .incomplete hname (firstMissing_cons.mpr (.inl ⟨rfl, ?_⟩))
    rintro ⟨unit, hsome, hpos⟩
    simp [hunit unit hsome] at hpos
  | noTotal hname hunit hpos htotal =>
    refine .incomplete hname (firstMissing_cons.mpr (.inr ⟨⟨_, hunit, hpos⟩, ?_⟩))
    exact firstMissing_cons.mpr (.inl ⟨rfl, fun hthere => hthere htotal⟩)
  | noFree hname hunit hpos htotal hfree =>
    refine .incomplete hname (firstMissing_cons.mpr (.inr ⟨⟨_, hunit, hpos⟩, ?_⟩))
    refine firstMissing_cons.mpr (.inr ⟨by simp [GroupRecord.Has, htotal], ?_⟩)
    exact firstMissing_cons.mpr (.inl ⟨rfl, fun hthere => hthere hfree⟩)
  | @complete facts hname hunit hpos htotal hfree =>
    have hgives : record.Gives facts := by
      refine ⟨?_, hpos⟩
      cases record
      simp_all
    obtain ⟨_, hall, hfits⟩ := hgives.complete
    exact .complete hname hall hfits hgives

end Group

section Volume

def volumeOrder : List ReportField := [.logicalPartitions, .unitSize, .policy]

def VolumeRecord.Has (record : VolumeRecord) : ReportField → Prop
  | .logicalPartitions => record.partitions ≠ none
  | .unitSize => record.unitSize ≠ none
  | .policy => ∃ word policy, record.policy = some word ∧ IsPolicyWord word policy
  | _ => True

def VolumeRecord.Fits (record : VolumeRecord) : Prop :=
  ∀ partitions unit, record.partitions = some partitions → record.unitSize = some unit →
    partitions.toNat * unit.toNat < UInt64.size

def VolumeRecord.Gives (record : VolumeRecord) (facts : VolumeFacts) : Prop :=
  ∃ partitions unit word,
    record = ⟨some facts.name, some facts.groupName, some partitions, some unit, some word⟩ ∧
    IsPolicyWord word facts.policy ∧ facts.size.toNat = partitions.toNat * unit.toNat

lemma ofText_eq_ok {word : String} {policy : PlacementPolicy} :
    PlacementPolicy.ofText word = .ok policy ↔ IsPolicyWord word policy := by
  have hword : ∀ w, PlacementPolicy.ofWord? w = some policy ↔ w = policy.word := by
    intro w
    rw [PlacementPolicy.ofWord?]
    constructor
    · split
      · rintro ⟨⟩
        assumption
      · split
        · rintro ⟨⟩
          assumption
        · rintro ⟨⟩
    · rintro rfl
      cases policy <;> rfl
  rw [IsPolicyWord, ← String.toList_ofList (l := lowercase (trim word.toList)), String.toList_inj, ← hword,
    PlacementPolicy.ofText]
  cases PlacementPolicy.ofWord? (String.ofList (lowercase (trim word.toList))) <;> simp

variable {record : VolumeRecord} {facts other : VolumeFacts}

lemma VolumeRecord.Gives.complete (h : record.Gives facts) :
    (∃ name, record.name = some name) ∧ (∀ f ∈ volumeOrder, record.Has f) ∧ record.Fits := by
  obtain ⟨partitions, unit, word, rfl, hword, hsize⟩ := h
  refine ⟨⟨_, rfl⟩, ?_, ?_⟩
  · simp only [volumeOrder, List.forall_mem_cons]
    exact ⟨by simp [VolumeRecord.Has], by simp [VolumeRecord.Has], ⟨word, _, rfl, hword⟩, by simp⟩
  · rintro _ _ ⟨rfl⟩ ⟨rfl⟩
    rw [← hsize]
    exact facts.size.toNat_lt

lemma VolumeRecord.Gives.unique (h : record.Gives facts) (h' : record.Gives other) : facts = other := by
  obtain ⟨partitions, unit, word, rfl, hword, hsize⟩ := h
  obtain ⟨_, _, _, hsame, hword', hsize'⟩ := h'
  simp only [VolumeRecord.mk.injEq, Option.some.injEq] at hsame
  obtain ⟨hname, hgroup, rfl, rfl, rfl⟩ := hsame
  have hpolicy := Except.ok.inj ((ofText_eq_ok.mpr hword).symm.trans (ofText_eq_ok.mpr hword'))
  have heq := UInt64.toNat_inj.mp (hsize.trans hsize'.symm)
  cases facts
  cases other
  simp_all

lemma VolumeRecord.situation (hnames : record.name.isSome = record.groupName.isSome) :
    Situation .volume record.name record.Has volumeOrder record.Fits record.Gives record.finish := by
  have hspec := record.finish_spec
  generalize record.finish = result at hspec ⊢
  cases hspec with
  | unnamed hname => exact .unnamed hname
  | noGroup hname hgroup => simp [hname, hgroup] at hnames
  | noPartitions hname _ hpartitions =>
    exact .incomplete hname (firstMissing_cons.mpr (.inl ⟨rfl, fun hthere => hthere hpartitions⟩))
  | noUnit hname _ hpartitions hunit =>
    refine .incomplete hname (firstMissing_cons.mpr (.inr ⟨Option.isSome_iff_ne_none.mp hpartitions, ?_⟩))
    exact firstMissing_cons.mpr (.inl ⟨rfl, fun hthere => hthere hunit⟩)
  | noPolicy hname _ hpartitions hunit hpolicy =>
    refine .incomplete hname (firstMissing_cons.mpr (.inr ⟨Option.isSome_iff_ne_none.mp hpartitions, ?_⟩))
    refine firstMissing_cons.mpr (.inr ⟨Option.isSome_iff_ne_none.mp hunit, ?_⟩)
    refine firstMissing_cons.mpr (.inl ⟨rfl, ?_⟩)
    rintro ⟨word, policy, hword, hpolicyWord⟩
    exact hpolicy word policy hword (ofText_eq_ok.mpr hpolicyWord)
  | tooLarge hname _ hpartitions hunit hword hpolicy hsize =>
    refine .outOfRange hname ?_ ?_
    · simp only [volumeOrder, List.forall_mem_cons]
      exact ⟨by simp [VolumeRecord.Has, hpartitions], by simp [VolumeRecord.Has, hunit],
        ⟨_, _, hword, ofText_eq_ok.mp hpolicy⟩, by simp⟩
    · intro hfits
      exact absurd (hfits _ _ hpartitions hunit) (Nat.not_lt.mpr hsize)
  | @complete facts word partitions unit hname hgroup hpartitions hunit hword hpolicy hsize heq =>
    have hproduct : facts.size.toNat = partitions.toNat * unit.toNat := by
      rw [heq, UInt64.toNat_mul, Nat.mod_eq_of_lt hsize]
    have hgives : record.Gives facts := by
      refine ⟨partitions, unit, word, ?_, ofText_eq_ok.mp hpolicy, hproduct⟩
      cases record
      simp_all
    obtain ⟨_, hall, hfits⟩ := hgives.complete
    exact .complete hname hall hfits hgives

end Volume

structure ReportsFailClosed (report : String) : Prop where
  group_named : (GroupRecord.scan report).name = none ↔
    ∀ line ∈ lines report.toList, ¬ HasSpaced isWord "VOLUME GROUP:".toList line
  group : FailsClosed .group (GroupRecord.scan report).name (GroupRecord.scan report).Has groupOrder True
    (GroupRecord.scan report).Gives (GroupFacts.ofReport report)
  volume_named : (VolumeRecord.scan report).name = none ↔ ∀ line ∈ lines report.toList, ¬ HasNames line
  volume : FailsClosed .volume (VolumeRecord.scan report).name (VolumeRecord.scan report).Has volumeOrder
    (VolumeRecord.scan report).Fits (VolumeRecord.scan report).Gives (VolumeFacts.ofReport report)
  owner_never_missing : ∀ name, VolumeFacts.ofReport report ≠ .error (.incompleteReport .volume name .groupName)

lemma group_unnamed_iff (report : String) : (GroupRecord.scan report).name = none ↔
    ∀ line ∈ lines report.toList, ¬ HasSpaced isWord "VOLUME GROUP:".toList line := by
  rw [← GroupRecord.finish_eq_none]
  refine ofReport_eq_none.trans ?_
  simp only [NamesNoGroup, labelled?_eq_none_iff fun _ => isWord_of_blank]

lemma names?_ofLine? (line : List Char) : (VolumeEntry.ofLine? line).bind VolumeEntry.names? =
    ((afterEach "LOGICAL VOLUME:".toList line).findSome? namePair?).map fun pair =>
      (some (String.ofList pair.1), some (String.ofList pair.2)) := by
  rw [VolumeEntry.ofLine?]
  cases (afterEach "LOGICAL VOLUME:".toList line).findSome? namePair? with
  | some pair => rfl
  | none =>
    cases (afterEach "LPs:".toList line).findSome? partitionFigure? <;>
      cases labelled? isDigit "PP SIZE:".toList line <;>
        cases labelled? isWord "INTER-POLICY:".toList line <;> rfl

lemma volume_unnamed_iff (report : String) :
    (VolumeRecord.scan report).name = none ↔ ∀ line ∈ lines report.toList, ¬ HasNames line := by
  have hnone : (VolumeRecord.scan report).name = none ↔
      (lines report.toList).filterMap (fun line => (VolumeEntry.ofLine? line).bind VolumeEntry.names?) = [] := by
    rw [VolumeRecord.scan_eq, VolumeEntry.ofReport, List.filterMap_filterMap]
    cases hlast : ((lines report.toList).filterMap fun line =>
        (VolumeEntry.ofLine? line).bind VolumeEntry.names?).getLast? with
    | none => simpa using List.getLast?_eq_none_iff.mp hlast
    | some names =>
      have hmem := List.mem_of_getLast? hlast
      obtain ⟨line, _, hline⟩ := List.mem_filterMap.mp hmem
      rw [names?_ofLine?] at hline
      obtain ⟨pair, _, rfl⟩ := Option.map_eq_some_iff.mp hline
      exact iff_of_false (by simp) (List.ne_nil_of_mem hmem)
  rw [hnone, List.filterMap_eq_nil_iff]
  simp only [names?_ofLine?, Option.map_eq_none_iff, names_eq_none_iff]

/-- The two names come from one line, so that the fault of a volume without a group, which a record can have, is
never one of a report. -/
theorem reports_fail_closed : (∀ report, ReportsFailClosed report) ∧
    ∀ name, ∃ record : VolumeRecord, record.name = some name ∧
      record.finish = .error (.incompleteReport .volume name .groupName) := by
  refine ⟨fun report => ?_, fun name => ⟨{ name := some name }, rfl, rfl⟩⟩
  have hvolume : FailsClosed .volume (VolumeRecord.scan report).name (VolumeRecord.scan report).Has volumeOrder
      (VolumeRecord.scan report).Fits (VolumeRecord.scan report).Gives (VolumeFacts.ofReport report) :=
    (VolumeRecord.situation (volumeNames_together report)).failsClosed (fun _ h => h.complete)
      fun _ _ h h' => h.unique h'
  refine ⟨group_unnamed_iff report, ?_, volume_unnamed_iff report, hvolume, ?_⟩
  · exact (GroupRecord.scan report).situation.failsClosed (fun _ h => h.complete) fun _ _ h h' => h.unique h'
  · intro name hfault
    obtain ⟨_, passed, rest, horder, _⟩ := (hvolume.incomplete name .groupName).mp hfault
    have hmem : ReportField.groupName ∈ volumeOrder := by rw [horder]; simp
    exact absurd hmem (by decide)

example : GroupRecord.finish { name := some "datavg", unitSize := some 0 } =
    .error (.incompleteReport .group "datavg" .unitSize) :=
  rfl

end LogicalVolumes
