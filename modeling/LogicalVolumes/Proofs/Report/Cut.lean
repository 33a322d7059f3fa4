import LogicalVolumes.Proofs.Plan.Precedence
import LogicalVolumes.Proofs.Report.Row.Group
import Mathlib.Data.List.Infix

/-! A report that breaks off at any character: whatever is still read of it is what the whole report says, but
for the last figure, which can come out smaller. -/

namespace LogicalVolumes

open Report Text

def cutShort (n : Nat) (report : String) : String := String.ofList (report.toList.take n)

/-- The lines of a text that breaks off: whole rows, then perhaps a part of the next one. -/
inductive Cut : List (List Char) → List (List Char) → Prop
  | ended {rows : List (List Char)} : Cut rows []
  | within {row part : List Char} {rows : List (List Char)} : part <+: row → Cut (row :: rows) [part]
  | past {row : List Char} {rows all : List (List Char)} : Cut rows all → Cut (row :: rows) (row :: all)

section Lines

variable {rows all : List (List Char)} {row last text : List Char}

lemma cut_part (hrow : Unbroken row) (htext : text <+: row) : Cut (row :: rows) (lines text) := by
  by_cases hne : text = []
  · subst hne
    exact .ended
  · have hfeed : '\n' ∉ text := fun hmem => (hrow _ (htext.subset hmem)).1 rfl
    rw [(IsText.last hne hfeed).lines_eq]
    exact .within htext

lemma lines_cut (h : ∀ row ∈ rows, Unbroken row) (htext : text <+: rows.flatMap (· ++ ['\n'])) :
    Cut rows (lines text) := by
  induction rows generalizing text with
  | nil =>
    obtain rfl : text = [] := List.prefix_nil.mp htext
    exact .ended
  | cons row rows ih =>
    obtain ⟨hrow, hrows⟩ := List.forall_mem_cons.mp h
    rw [List.flatMap_cons, List.append_assoc] at htext
    rcases List.prefix_or_prefix_of_prefix htext (List.prefix_append row _) with hpart | ⟨more, rfl⟩
    · exact cut_part hrow hpart
    · rcases List.prefix_cons_iff.mp ((List.prefix_append_right_inj row).mp htext) with rfl | ⟨rest, rfl, hrest⟩
      · rw [List.append_nil]
        exact cut_part hrow (List.prefix_refl row)
      · have hkept : dropReturn row = row :=
          dropReturn_of_last fun hlast => (hrow _ (List.mem_of_getLast? hlast)).2 rfl
        rw [lines_append_cons fun c hc => (hrow c hc).1, hkept]
        exact .past (ih hrows hrest)

lemma Cut.split (rows : List (List Char)) (h : Cut (rows ++ [last]) all) :
    (∀ line ∈ all, ∃ row ∈ rows, line <+: row) ∨ ∃ part, part <+: last ∧ all = rows ++ [part] := by
  induction rows generalizing all with
  | nil =>
    cases h with
    | ended => exact .inl (by simp)
    | within hpart => exact .inr ⟨_, hpart, rfl⟩
    | past hrest =>
      cases hrest with
      | ended => exact .inr ⟨last, List.prefix_refl last, rfl⟩
  | cons row rows ih =>
    cases h with
    | ended => exact .inl (by simp)
    | within hpart => exact .inl (List.forall_mem_singleton.mpr ⟨row, List.mem_cons_self, hpart⟩)
    | past hrest =>
      rcases ih hrest with hall | ⟨part, hpart, rfl⟩
      · refine .inl (List.forall_mem_cons.mpr ⟨⟨row, List.mem_cons_self, List.prefix_refl row⟩, ?_⟩)
        intro line hline
        obtain ⟨other, hother, hprefix⟩ := hall line hline
        exact ⟨other, List.mem_cons_of_mem row hother, hprefix⟩
      · exact .inr ⟨part, hpart, rfl⟩

lemma lines_cutShort (h : ∀ row ∈ rows, Unbroken row) (n : Nat) :
    Cut rows (lines (cutShort n (printed rows)).toList) := by
  rw [cutShort, printed, String.toList_ofList, String.toList_ofList]
  exact lines_cut h (List.take_prefix _ _)

end Lines

section Parts

variable {p : Char → Bool} {c : Char} {s t s' t' label₁ label₂ value₁ value₂ : List Char} {spacing : Spacing}

/-- A character that a row has once is found at the same place in each part of the row that has it. -/
lemma prefix_at_mark (hs : c ∉ s') (ht : c ∉ t') (h : s ++ c :: t <+: s' ++ c :: t') : s = s' ∧ t <+: t' := by
  obtain ⟨lost, hlost⟩ := h
  rw [List.append_assoc, List.cons_append] at hlost
  obtain ⟨rfl, _, rfl⟩ := (List.append_cons_inj_of_notMem hs ht).mp hlost.symm
  exact ⟨rfl, List.prefix_append _ _⟩

lemma prefix_before_end (hs : ∀ c ∈ s, p c = true) (hend : EndsRun p t') (h : s ++ t <+: s' ++ t') :
    s <+: s' := by
  rcases List.prefix_or_prefix_of_prefix ((List.prefix_append s t).trans h) (List.prefix_append s' t') with
    hshort | ⟨more, rfl⟩
  · exact hshort
  · rw [List.append_assoc, List.prefix_append_right_inj] at h
    cases more with
    | nil => rw [List.append_nil]
    | cons d more =>
      obtain ⟨lost, rfl⟩ := h
      exact absurd (hs d (by simp)) (by simp [hend d rfl])

lemma prefix_of_cut_value {gap : List Char} {n : Nat} (hp : ∀ c, isBlank c = true → p c = false)
    (hgap : IsGap gap) (hne : s ≠ []) (hs : ∀ c ∈ s, p c = true) (hne' : s' ≠ [])
    (hs' : ∀ c ∈ s', p c = true) (hend : EndsRun p t')
    (h : gap ++ (s ++ t) <+: spaces n ++ (s' ++ t')) : s <+: s' := by
  obtain ⟨more, hmore⟩ := prefix_before_end hgap.2 (head_not_blank hp hne' hs' t') h
  rw [← hmore, List.append_assoc, List.prefix_append_right_inj] at h
  cases more with
  | nil => exact prefix_before_end hs hend h
  | cons d more =>
    cases s with
    | nil => exact absurd rfl hne
    | cons e s =>
      obtain rfl : e = d := (List.cons_prefix_cons.mp h).1
      have hblank := (isGap_spaces n).2 e (by rw [← hmore]; simp)
      exact absurd (hs e List.mem_cons_self) (by simp [hp e hblank])

lemma not_mem_of_letters (hc : c.isDigit = false ∧ c ≠ ' ') (h : c ∉ letters s) : c ∉ s :=
  fun hmem => h (List.mem_filter.mpr ⟨hmem, by simp [hc]⟩)

lemma not_mem_row (hc : c ≠ ' ') (h₁ : c ∉ label₁) (hv₁ : c ∉ value₁) (h₂ : c ∉ label₂) (hv₂ : c ∉ value₂) :
    c ∉ row spacing label₁ value₁ label₂ value₂ := by
  simp [row_eq, spaces, hc, h₁, hv₁, h₂, hv₂]

lemma not_mem_word (hc : isWord c = false) (hs : ∀ c ∈ s, isWord c = true) : c ∉ s :=
  fun hmem => absurd (hs c hmem) (by simp [hc])

end Parts

/-- What a part of the report on a volume may be read as. -/
inductive VolumeCut (volume : VolumeFacts) : Except Fault (Option VolumeFacts) → Prop
  | unnamed : VolumeCut volume (.ok none)
  | incomplete {name : String} {field : ReportField} :
      VolumeCut volume (.error (.incompleteReport .volume name field))
  | whole : VolumeCut volume (.ok (some volume))

inductive GroupCut (group : GroupFacts) : Except Fault (Option GroupFacts) → Prop
  | unnamed : GroupCut group (.ok none)
  | incomplete {name : String} {field : ReportField} :
      GroupCut group (.error (.incompleteReport .group name field))
  | facts {free : Megabytes} : free ≤ group.freeCapacity →
      GroupCut group (.ok (some { group with freeCapacity := free }))

section Volume

variable {layout : VolumeReportLayout} {volume : VolumeState} {part line : List Char} {report : String}

lemma no_policy_on (h : '-' ∉ line) : (VolumeEntry.ofLine? line).bind VolumeEntry.policy? = none := by
  have hlabel : labelled? isWord "INTER-POLICY:".toList line = none :=
    labelled?_eq_none fun hwithin => h (hwithin.subset (by decide))
  rw [VolumeEntry.ofLine?, hlabel]
  cases (afterEach "LOGICAL VOLUME:".toList line).findSome? namePair? <;>
    cases (afterEach "LPs:".toList line).findSome? partitionFigure? <;>
      cases labelled? isDigit "PP SIZE:".toList line <;> rfl

lemma unpolicied (h : ∀ line ∈ lines report.toList, (VolumeEntry.ofLine? line).bind VolumeEntry.policy? = none) :
    (VolumeRecord.scan report).policy = none := by
  have hnone : (VolumeEntry.ofReport report).filterMap VolumeEntry.policy? = [] := by
    rw [VolumeEntry.ofReport, List.filterMap_filterMap]
    exact List.filterMap_eq_nil_iff.mpr h
  rw [VolumeRecord.scan_eq, hnone]
  rfl

/-- The policy is the last thing that a volume's report needs, so that one cut before it gives no facts. -/
lemma volumeCut_of_unread (h : ∀ word policy, (VolumeRecord.scan report).policy = some word →
    PlacementPolicy.ofText word ≠ .ok policy) : VolumeCut volume.facts (VolumeFacts.ofReport report) := by
  have hspec := (VolumeRecord.scan report).finish_spec
  rw [VolumeFacts.ofReport]
  generalize (VolumeRecord.scan report).finish = result at hspec ⊢
  cases hspec with
  | unnamed => exact .unnamed
  | noGroup => exact .incomplete
  | noPartitions => exact .incomplete
  | noUnit => exact .incomplete
  | noPolicy => exact .incomplete
  | tooLarge _ _ _ _ hword hpolicy => exact absurd hpolicy (h _ _ hword)
  | complete _ _ _ _ hword hpolicy => exact absurd hpolicy (h _ _ hword)

lemma unread_or_whole {word : List Char} {policy : PlacementPolicy} (h : word <+: policy.word.toList) :
    word = policy.word.toList ∨ ∀ other, PlacementPolicy.ofText (String.ofList word) ≠ .ok other := by
  have hall : ∀ w ∈ policy.word.toList.inits, w = policy.word.toList ∨
      (PlacementPolicy.ofText (String.ofList w)).toOption = none := by
    cases policy <;> decide +kernel
  refine (hall word ((List.mem_inits _ _).mpr h)).imp_right fun hnone other hother => ?_
  rw [hother] at hnone
  cases hnone

lemma policyRow_part (hpart : part <+: layout.policyRow volume) : VolumeEntry.ofLine? part = none ∨
    ∃ word, word <+: volume.policy.word.toList ∧
      VolumeEntry.ofLine? part = some (.policy (String.ofList word)) := by
  obtain ⟨hnames, hphysical, hunit, _⟩ := isPolicyLine_policyRow layout volume
  have hwithin : ∀ label : List Char, ¬ label <:+: layout.policyRow volume → ¬ label <:+: part :=
    fun label hno hlabel => hno (hlabel.trans hpart.isInfix)
  rw [VolumeEntry.ofLine?, afterEach_eq_nil (hwithin _ hnames), partitions_missed _ (hwithin _ hphysical),
    labelled?_eq_none (hwithin _ hunit)]
  cases hword : labelled? isWord "INTER-POLICY:".toList part with
  | none => exact .inl rfl
  | some word =>
    refine .inr ⟨word, ?_, rfl⟩
    obtain ⟨before, gap, after, rfl, hgap, hne, hrun⟩ := labelled?_eq_some hword
    have hlabel : "INTER-POLICY:".toList = "INTER".toList ++ '-' :: "POLICY:".toList := rfl
    rw [VolumeReportLayout.policyRow, row_eq, hlabel, List.append_assoc, ← List.append_assoc before,
      List.append_assoc "INTER".toList, List.cons_append, List.cons_append] at hpart
    -- the row has one dash only, so that the label stands where the whole row has it
    have hdash : '-' ∉ volume.policy.word.toList := by cases volume.policy <;> decide
    obtain ⟨_, htail⟩ := prefix_at_mark (by decide) (by simp [spaces, hdash]) hpart
    rw [List.prefix_append_right_inj] at htail
    have hpolicy : volume.policy.word.toList ≠ [] ∧ ∀ c ∈ volume.policy.word.toList, isWord c = true :=
      ⟨by cases volume.policy <;> decide, List.all_eq_true.mp (by cases volume.policy <;> decide +kernel)⟩
    refine prefix_of_cut_value (fun _ => isWord_of_blank) hgap hne hrun hpolicy.1 hpolicy.2 (fun c hc => ?_) htail
    rw [head_spaces hc]
    exact isWord_of_blank (by decide)

lemma volumeRows_dashless : ∀ row ∈ [layout.nameRow volume, layout.unitRow volume, layout.partitionRow volume],
    '-' ∉ row := by
  have hword : isWord '-' = false := by decide +kernel
  simp only [List.forall_mem_cons]
  refine ⟨?_, ?_, ?_, by simp⟩
  · exact not_mem_row (by decide) (by decide) (not_mem_word hword volume.named.2) (by decide)
      (not_mem_word hword volume.owned.2)
  · exact not_mem_of_letters (by decide) (by rw [letters_volumeUnitRow]; decide)
  · exact not_mem_of_letters (by decide) (by rw [letters_partitionRow]; decide)

lemma scan_volumeRows {word : String} (layout : VolumeReportLayout) (volume : VolumeState)
    (hlines : lines report.toList =
      [layout.nameRow volume, layout.unitRow volume, layout.partitionRow volume] ++ [part])
    (hentry : VolumeEntry.ofLine? part = some (.policy word)) : VolumeRecord.scan report =
      ⟨some volume.name, some volume.groupName, some volume.partitions, some volume.unitSize, some word⟩ := by
  have hnames := entry_names (isNameLine_nameRow layout volume) (isLegible_names volume)
  rw [owner_whole, String.ofList_toList, String.ofList_toList] at hnames
  refine VolumeRecord.scan_of_mem fun e => ?_
  rw [VolumeEntry.ofReport, hlines]
  simp [hnames, entry_unitSize (isUnitLine_unitRow layout volume),
    entry_partitions (isPartitionLine_partitionRow layout volume), hentry, or_left_comm]

lemma volume_cut (layout : VolumeReportLayout) (volume : VolumeState) (n : Nat) :
    VolumeCut volume.facts (VolumeFacts.ofReport (cutShort n (layout.print volume))) := by
  have hcut := lines_cutShort (unbroken_volumeRows layout volume) n
  rw [← VolumeReportLayout.print] at hcut
  have hsilent : ∀ line, (∃ row ∈ [layout.nameRow volume, layout.unitRow volume, layout.partitionRow volume],
      line <+: row) → (VolumeEntry.ofLine? line).bind VolumeEntry.policy? = none := by
    rintro line ⟨row, hrow, hline⟩
    exact no_policy_on fun hmem => volumeRows_dashless row hrow (hline.subset hmem)
  rcases Cut.split [_, _, _] hcut with hearly | ⟨part, hpart, hlines⟩
  · have hnone := unpolicied fun line hline => hsilent line (hearly line hline)
    exact volumeCut_of_unread (by simp [hnone])
  · rcases policyRow_part hpart with hentry | ⟨word, hword, hentry⟩
    · have hnone : (VolumeRecord.scan (cutShort n (layout.print volume))).policy = none := by
        refine unpolicied fun line hline => ?_
        rw [hlines] at hline
        rcases List.mem_append.mp hline with hrow | hlast
        · exact hsilent line ⟨line, hrow, List.prefix_refl line⟩
        · rw [List.mem_singleton.mp hlast, hentry]
          rfl
      exact volumeCut_of_unread (by simp [hnone])
    · have hscan := scan_volumeRows layout volume hlines hentry
      rcases unread_or_whole hword with rfl | hunread
      · have hwhole := scan_volumeRows layout volume (lines_printVolume layout volume)
          (entry_policy (isPolicyLine_policyRow layout volume))
        rw [String.ofList_toList, ← hwhole] at hscan
        rw [VolumeFacts.ofReport, hscan, ← VolumeFacts.ofReport, ofReport_printVolume]
        exact .whole
      · refine volumeCut_of_unread fun text policy htext => ?_
        rw [hscan] at htext
        obtain rfl := Option.some.inj htext
        exact hunread policy

end Volume

section Group

variable {layout : GroupLayout} {group : GroupState} {part line : List Char} {report : String}

lemma no_free_on (h : '(' ∉ line ∨ 'F' ∉ line) :
    (GroupEntry.ofLine? line).bind GroupEntry.freeCapacity? = none := by
  have hlabel : labelledBracket? "FREE PP".toList line = none := by
    rcases h with hbracket | hletter
    · rw [labelledBracket?_eq_none_iff]
      rintro ⟨before, rest, rfl, hopens⟩
      exact not_opensDigits_of_not_mem (fun hmem => hbracket (by simp [hmem])) hopens
    · exact labelledBracket?_eq_none fun hwithin => hletter (hwithin.subset (by decide))
  rw [GroupEntry.ofLine?, hlabel]
  cases labelled? isWord "VOLUME GROUP:".toList line <;> cases labelledBracket? "TOTAL PP".toList line <;>
    cases labelled? isDigit "PP SIZE:".toList line <;> rfl

lemma groupCut_of_unfree {group : GroupFacts}
    (h : ∀ line ∈ lines report.toList, (GroupEntry.ofLine? line).bind GroupEntry.freeCapacity? = none) :
    GroupCut group (GroupFacts.ofReport report) := by
  have hnone : (GroupEntry.ofReport report).filterMap GroupEntry.freeCapacity? = [] := by
    rw [GroupEntry.ofReport, List.filterMap_filterMap]
    exact List.filterMap_eq_nil_iff.mpr h
  have hfree : (GroupRecord.scan report).freeCapacity = none := by
    rw [GroupRecord.scan_eq, hnone]
    rfl
  have hspec := GroupFacts.ofReport_spec report
  generalize GroupFacts.ofReport report = result at hspec ⊢
  cases hspec with
  | unnamed => exact .unnamed
  | noUnit => exact .incomplete
  | noTotal => exact .incomplete
  | noFree => exact .incomplete
  | complete _ _ _ _ hsome => cases hfree.symm.trans hsome

lemma groupRows_unfree : ∀ row ∈ [layout.nameRow group.toGroupFacts, layout.unitRow group.toGroupFacts,
    layout.totalRow group.toGroupFacts], '(' ∉ row ∨ 'F' ∉ row := by
  have hword : isWord '(' = false := by decide +kernel
  simp only [List.forall_mem_cons]
  refine ⟨.inl ?_, .inr ?_, .inr ?_, by simp⟩
  · exact not_mem_row (by decide) (by decide) (not_mem_word hword group.named.2) (by decide)
      (not_mem_word hword layout.identifier_word)
  · exact not_mem_of_letters (by decide) (by rw [letters_unitRow]; decide)
  · exact not_mem_of_letters (by decide) (by rw [letters_totalRow]; decide)

lemma freeRow_part (hpart : part <+: layout.freeRow group.toGroupFacts) : GroupEntry.ofLine? part = none ∨
    ∃ free, free ≤ group.freeCapacity ∧ GroupEntry.ofLine? part = some (.freeCapacity (some free)) := by
  obtain ⟨hname, htotal, hunit, _⟩ := isFreeLine_freeRow layout group.toGroupFacts
  have hwithin : ∀ label : List Char, ¬ label <:+: layout.freeRow group.toGroupFacts → ¬ label <:+: part :=
    fun label hno hlabel => hno (hlabel.trans hpart.isInfix)
  rw [GroupEntry.ofLine?, labelled?_eq_none (hwithin _ hname), labelledBracket?_eq_none (hwithin _ htotal),
    labelled?_eq_none (hwithin _ hunit)]
  cases hfigure : labelledBracket? "FREE PP".toList part with
  | none => exact .inl rfl
  | some figure =>
    obtain ⟨before, after, rfl, hne, hdigits⟩ := labelledBracket?_eq_some hfigure
    -- likewise the bracket, and the digits behind it are a part of the figure's own
    have hbracket : ∀ n, '(' ∉ numeral n := not_mem_numeral (by decide +kernel)
    have hrow : layout.freeRow group.toGroupFacts = (firstColumn layout.limitSpacing "MAX LVs:".toList
        (numeral layout.volumeLimit) ++ ("FREE PPs:".toList ++ (spaces layout.limitSpacing.last ++
          (numeral layout.freePartitions ++ [' '])))) ++ '(' :: (numeral group.freeCapacity.toNat ++
            " megabytes)".toList) := by
      simp [GroupLayout.freeRow, row, capacityFigure]
    rw [hrow] at hpart
    obtain ⟨_, htail⟩ := prefix_at_mark (by simp [firstColumn, spaces, hbracket]) (by simp [hbracket]) hpart
    have hend : EndsRun isDigit " megabytes)".toList := by
      rintro _ ⟨rfl⟩
      exact isDigit_of_blank (by decide)
    obtain ⟨free, hfree, hle⟩ := readWord_of_cut hne (prefix_before_end hdigits hend htail)
    exact .inr ⟨free, hle, by rw [Option.map_some, hfree]; rfl⟩

lemma group_cut (layout : GroupLayout) (group : GroupState) (n : Nat) :
    GroupCut group.toGroupFacts (GroupFacts.ofReport (cutShort n (layout.print group.toGroupFacts))) := by
  have hcut := lines_cutShort (unbroken_groupRows layout group) n
  rw [← GroupLayout.print] at hcut
  have hsilent : ∀ line, (∃ row ∈ [layout.nameRow group.toGroupFacts, layout.unitRow group.toGroupFacts,
      layout.totalRow group.toGroupFacts], line <+: row) →
        (GroupEntry.ofLine? line).bind GroupEntry.freeCapacity? = none := by
    rintro line ⟨row, hrow, hline⟩
    exact no_free_on ((groupRows_unfree row hrow).imp (fun hno hmem => hno (hline.subset hmem))
      fun hno hmem => hno (hline.subset hmem))
  rcases Cut.split [_, _, _] hcut with hearly | ⟨part, hpart, hlines⟩
  · exact groupCut_of_unfree fun line hline => hsilent line (hearly line hline)
  · rcases freeRow_part hpart with hentry | ⟨free, hle, hentry⟩
    · refine groupCut_of_unfree fun line hline => ?_
      rw [hlines] at hline
      rcases List.mem_append.mp hline with hrow | hlast
      · exact hsilent line ⟨line, hrow, List.prefix_refl line⟩
      · rw [List.mem_singleton.mp hlast, hentry]
        rfl
    · have hname := entry_groupName (by simpa using group.named.1) group.named.2
        (isGroupNameLine_nameRow layout group.toGroupFacts)
      rw [String.ofList_toList] at hname
      have hmem : ∀ e, e ∈ GroupEntry.ofReport (cutShort n (layout.print group.toGroupFacts)) ↔
          e ∈ groupSaid { group.toGroupFacts with freeCapacity := free } := by
        intro e
        rw [GroupEntry.ofReport, hlines]
        simp [groupSaid, hname, entry_groupUnitSize (isGroupUnitLine_unitRow layout group.toGroupFacts),
          entry_total (isTotalLine_totalRow layout group.toGroupFacts), hentry, or_left_comm]
      rw [GroupFacts.ofReport_of_mem hmem group.unitSize_pos]
      exact .facts hle

end Group

structure CutGroupReport (layout : GroupLayout) (group : GroupState) (n : Nat) : Prop where
  reading : GroupCut group.toGroupFacts (GroupFacts.ofReport (cutShort n (layout.print group.toGroupFacts)))
  creation : ∀ facts, GroupFacts.ofReport (cutShort n (layout.print group.toGroupFacts)) = .ok (some facts) →
    ∀ desired observed creation, plan desired facts observed = .ok (.change (.create creation)) →
      plan desired group.toGroupFacts observed = .ok (.change (.create creation))

lemma plan_create_mono {desired : DesiredState} {group less : GroupFacts} {observed : Option VolumeFacts}
    {creation : VolumeLayout} (h : plan desired less observed = .ok (.change (.create creation)))
    (hunit : less.unitSize = group.unitSize) (hfree : less.freeCapacity ≤ group.freeCapacity) :
    plan desired group observed = .ok (.change (.create creation)) := by
  obtain ⟨hmissing, ⟨text, htext, hsize⟩, hspace, hlayout⟩ := plan_eq_create.mp h
  rw [hunit] at hsize
  exact plan_eq_create.mpr ⟨hmissing, ⟨text, htext, hsize⟩, UInt64.le_trans hspace hfree, hlayout⟩

theorem cut_report_invents_nothing (n : Nat) :
    (∀ (layout : VolumeReportLayout) (volume : VolumeState),
      VolumeCut volume.facts (VolumeFacts.ofReport (cutShort n (layout.print volume)))) ∧
    ∀ (layout : GroupLayout) (group : GroupState), CutGroupReport layout group n := by
  refine ⟨fun layout volume => volume_cut layout volume n, fun layout group => ?_⟩
  have hreading := group_cut layout group n
  refine ⟨hreading, fun facts hfacts desired observed creation hplan => ?_⟩
  rw [hfacts] at hreading
  cases hreading with
  | facts hfree => exact plan_create_mono hplan rfl hfree

end LogicalVolumes
