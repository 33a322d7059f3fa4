import LogicalVolumes.Proofs.Report.Label
import LogicalVolumes.Proofs.Report.Scan
import LogicalVolumes.Proofs.Text.Numeral
import LogicalVolumes.Report.Volume

/-! The layout of a report on a logical volume, in any order of its lines, and what is read from it. -/

namespace LogicalVolumes

open Report Text

def nameLine (gap₁ volume gap₂ gap₃ tail : List Char) : List Char :=
  "LOGICAL VOLUME:".toList ++ (gap₁ ++ (volume ++ (gap₂ ++ ("VOLUME GROUP:".toList ++ (gap₃ ++ tail)))))

def IsNameLine (volume group line : List Char) : Prop :=
  IsSolid volume ∧ IsSolid group ∧ ∃ gap₁ gap₂ gap₃ trail,
    line = nameLine gap₁ volume gap₂ gap₃ (group ++ trail) ∧ IsGap gap₁ ∧ IsGap gap₂ ∧ IsGap gap₃ ∧
    ∀ c ∈ trail, isBlank c = true

def IsPartitionLine (partitions : UInt64) (line : List Char) : Prop :=
  ¬ "LOGICAL VOLUME:".toList <:+: line ∧
  ∃ after, IsColumn "LPs:".toList (numeral partitions.toNat) after line ∧ "PPs".toList <:+: after

def IsUnitLine (unitSize : Megabytes) (line : List Char) : Prop :=
  ¬ "LOGICAL VOLUME:".toList <:+: line ∧ ¬ "PPs".toList <:+: line ∧
  ∃ after, IsColumn "PP SIZE:".toList (numeral unitSize.toNat) after line

def IsPolicyLine (policy : PlacementPolicy) (line : List Char) : Prop :=
  ¬ "LOGICAL VOLUME:".toList <:+: line ∧ ¬ "PPs".toList <:+: line ∧ ¬ "PP SIZE:".toList <:+: line ∧
  ∃ after, IsColumn "INTER-POLICY:".toList policy.word.toList after line

def IsOtherLine (line : List Char) : Prop :=
  ¬ "LOGICAL VOLUME:".toList <:+: line ∧ ¬ "LPs:".toList <:+: line ∧ ¬ "PP SIZE:".toList <:+: line ∧
  ¬ "INTER-POLICY:".toList <:+: line

/-- A complete report: each kind of line is there, and no two lines contradict each other. -/
structure IsVolumeReport (volume group : List Char) (partitions : UInt64) (unitSize : Megabytes)
    (policy : PlacementPolicy) (report : String) : Prop where
  has_names : ∃ line ∈ lines report.toList, IsNameLine volume group line
  has_partitions : ∃ line ∈ lines report.toList, IsPartitionLine partitions line
  has_unitSize : ∃ line ∈ lines report.toList, IsUnitLine unitSize line
  has_policy : ∃ line ∈ lines report.toList, IsPolicyLine policy line
  consistent : ∀ line ∈ lines report.toList, IsNameLine volume group line ∨ IsPartitionLine partitions line ∨
    IsUnitLine unitSize line ∨ IsPolicyLine policy line ∨ IsOtherLine line

/-- The two names that are recognised on their line: the whole of the first is a word, and the second starts
with one. -/
def IsLegible (volume group : List Char) : Prop :=
  (∀ c ∈ volume, isWord c = true) ∧ group.takeWhile isWord ≠ []

lemma isLegible_iff {volume group : List Char} :
    IsLegible volume group ↔ (volume.all isWord && !(group.takeWhile isWord).isEmpty) = true := by
  simp [IsLegible]

instance (volume group : List Char) : Decidable (IsLegible volume group) :=
  decidable_of_iff _ isLegible_iff.symm

section Names

variable {volume group gap gap₁ gap₂ gap₃ tail line s : List Char}

lemma words_nameLine (before : List Char) (hvolume : IsSolid volume) (h₁ : IsGap gap₁) (h₂ : IsGap gap₂)
    (h₃ : IsGap gap₃) (tail : List Char) :
    words (before ++ nameLine gap₁ volume gap₂ gap₃ tail) = words (before ++ "LOGICAL".toList) ++
      "VOLUME:".toList :: volume :: "VOLUME".toList :: "GROUP:".toList :: words tail := by
  have hspace : IsGap [' '] := by decide +kernel
  have hlogical : "LOGICAL VOLUME:".toList = "LOGICAL".toList ++ ([' '] ++ "VOLUME:".toList) := rfl
  have hgroup : "VOLUME GROUP:".toList = "VOLUME".toList ++ ([' '] ++ "GROUP:".toList) := rfl
  have hs₁ : IsSolid "VOLUME:".toList := by decide +kernel
  have hs₂ : IsSolid "VOLUME".toList := by decide +kernel
  have hs₃ : IsSolid "GROUP:".toList := by decide +kernel
  have hwords := words_two_one_two hspace h₁ h₂ h₃ hs₁ hvolume hs₂ hs₃ before "LOGICAL".toList tail
  rw [← hlogical, ← hgroup] at hwords
  exact hwords

lemma namePair?_read (hvolume : volume ≠ []) (hword : ∀ c ∈ volume, isWord c = true) (h₁ : IsGap gap₁)
    (h₂ : IsGap gap₂) (h₃ : IsGap gap₃) (htail : tail.takeWhile isWord ≠ []) :
    namePair? (gap₁ ++ (volume ++ (gap₂ ++ ("VOLUME GROUP:".toList ++ (gap₃ ++ tail))))) =
      some (volume, tail.takeWhile isWord) := by
  have hblank : ∀ c, isBlank c = true → isWord c = false := fun _ => isWord_of_blank
  have hgap : ∀ c, (gap₂ ++ ("VOLUME GROUP:".toList ++ (gap₃ ++ tail))).head? = some c →
      isWord c = false := by
    intro c hc
    obtain ⟨hne, hall⟩ := h₂
    cases gap₂ with
    | nil => exact absurd rfl hne
    | cons d gap₂ =>
      obtain rfl : d = c := by simpa using hc
      exact isWord_of_blank (hall d (by simp))
  have hrest : ∀ c, (tail.dropWhile isWord).head? = some c → isWord c = false := by
    intro c hc
    simpa [hc] using List.head?_dropWhile_not isWord tail
  have hfirst := spacedRun?_gap hblank h₁ hvolume hword hgap
  have hlast := spacedRun?_gap hblank h₃ htail (List.all_eq_true.mp List.all_takeWhile) hrest
  rw [List.takeWhile_append_dropWhile] at hlast
  have hlabel : pastBlanks? (gap₂ ++ ("VOLUME GROUP:".toList ++ (gap₃ ++ tail))) =
      some ("VOLUME GROUP:".toList ++ (gap₃ ++ tail)) := by
    refine pastBlanks?_gap h₂ fun c hc => ?_
    obtain rfl : 'V' = c := by simpa using hc
    decide
  simp only [namePair?, Option.bind_eq_bind, Option.bind_eq_some_iff]
  exact ⟨_, hfirst, _, hlabel, _, after?_append _ _, _, hlast, rfl⟩

lemma namePair?_eq_some {pair : List Char × List Char} (h : namePair? s = some pair) :
    ∃ gap₁ gap₂ gap₃ c tail, IsGap gap₁ ∧ IsGap gap₂ ∧ IsGap gap₃ ∧ pair.1 ≠ [] ∧
      (∀ d ∈ pair.1, isWord d = true) ∧ isWord c = true ∧
      "LOGICAL VOLUME:".toList ++ s = nameLine gap₁ pair.1 gap₂ gap₃ (c :: tail) := by
  simp only [namePair?, Option.bind_eq_bind, Option.bind_eq_some_iff, Option.pure_def, Option.some.injEq] at h
  obtain ⟨⟨volume, s₁⟩, hvolume, s₂, hgap, s₃, hlabel, ⟨group, s₄⟩, hgroup, rfl⟩ := h
  obtain ⟨gap₁, h₁, rfl, hne, hword⟩ := spacedRun?_eq_some hvolume
  obtain ⟨gap₂, h₂, rfl⟩ := pastBlanks?_eq_some hgap
  obtain rfl := after?_eq_some.mp hlabel
  obtain ⟨gap₃, h₃, rfl, hgne, hgword⟩ := spacedRun?_eq_some hgroup
  cases group with
  | nil => exact absurd rfl hgne
  | cons c group =>
    exact ⟨gap₁, gap₂, gap₃, c, group ++ s₄, h₁, h₂, h₃, hne, hword, hgword c (by simp), rfl⟩

lemma names_found (hline : IsNameLine volume group line) (h : IsLegible volume group) :
    (afterEach "LOGICAL VOLUME:".toList line).findSome? namePair? =
      some (volume, group.takeWhile isWord) := by
  obtain ⟨hvolume, _, gap₁, gap₂, gap₃, trail, rfl, h₁, h₂, h₃, htrail⟩ := hline
  obtain ⟨hword, hgroup⟩ := h
  have htail := takeWhile_trail (fun c hc => isWord_of_blank (htrail c hc)) group
  rw [← htail] at hgroup
  have hread := namePair?_read hvolume.1 hword h₁ h₂ h₃ hgroup
  rw [htail] at hread
  exact findSome?_afterEach hread

lemma legible_of_names {pair : List Char × List Char} (hline : IsNameLine volume group line)
    (hfound : (afterEach "LOGICAL VOLUME:".toList line).findSome? namePair? = some pair) :
    IsLegible volume group := by
  obtain ⟨hvolume, hgroup, gap₁, gap₂, gap₃, trail, rfl, h₁, h₂, h₃, htrail⟩ := hline
  obtain ⟨s, hs, hpair⟩ := List.exists_of_findSome?_eq_some hfound
  obtain ⟨before, hbefore⟩ := mem_afterEach.mp hs
  obtain ⟨gap₄, gap₅, gap₆, c, tail, h₄, h₅, h₆, hne, hword, hc, hlabel⟩ := namePair?_eq_some hpair
  rw [List.append_assoc, hlabel] at hbefore
  have hsolid : IsSolid pair.1 := ⟨hne, fun d hd => isBlank_of_word (hword d hd)⟩
  -- the line has six words, and an occurrence of the label takes the first two of them wherever it is found
  have hsix := words_nameLine [] hvolume h₁ h₂ h₃ (group ++ trail)
  have hfoundSix := words_nameLine before hsolid h₄ h₅ h₆ (c :: tail)
  obtain ⟨w, ws, hw⟩ := words_cons (isBlank_of_word hc) tail
  have hfirst : 0 < (words (before ++ "LOGICAL".toList)).length :=
    List.length_pos_iff.mpr (words_ne_nil (c := 'L') (by simp) (by decide))
  have hone : (words ([] ++ "LOGICAL".toList)).length = 1 := by decide +kernel
  rw [List.nil_append, hbefore, hfoundSix, words_solid_blank hgroup htrail, hw] at hsix
  have hlength := congrArg List.length hsix
  simp only [List.length_append, List.length_cons, List.length_nil] at hlength
  have hrest := (List.append_inj hsix (by omega)).2
  simp only [List.cons.injEq, true_and] at hrest
  obtain ⟨rfl, rfl, _⟩ := hrest
  exact ⟨hword, by simp [hc]⟩

end Names

namespace VolumeEntry

/-- What an entry says about the two names; the others likewise. -/
def names? : VolumeEntry → Option (Option String × Option String)
  | .names volume group => some (some volume, some group)
  | _ => none

def partitions? : VolumeEntry → Option (Option UInt64)
  | .partitions figure => some figure
  | _ => none

def unitSize? : VolumeEntry → Option (Option Megabytes)
  | .unitSize figure => some figure
  | _ => none

def policy? : VolumeEntry → Option (Option String)
  | .policy word => some (some word)
  | _ => none

def ofReport (report : String) : List VolumeEntry :=
  (lines report.toList).filterMap ofLine?

end VolumeEntry

section Entries

variable {volume group line : List Char} {partitions : UInt64} {unitSize : Megabytes}
  {policy : PlacementPolicy}

lemma entry_names (hline : IsNameLine volume group line) (h : IsLegible volume group) :
    VolumeEntry.ofLine? line =
      some (.names (String.ofList volume) (String.ofList (group.takeWhile isWord))) := by
  rw [VolumeEntry.ofLine?, names_found hline h]
  rfl

lemma digits_blank : ∀ c, isBlank c = true → isDigit c = false := fun _ => isDigit_of_blank

lemma partitionFigure?_read (partitions : UInt64) {gap after : List Char} (hgap : IsGap gap)
    (hafter : ∀ c, after.head? = some c → isDigit c = false) (hphysical : "PPs".toList <:+: after) :
    partitionFigure? (gap ++ (numeral partitions.toNat ++ after)) = some (numeral partitions.toNat) := by
  have hspaced := spacedRun?_gap digits_blank hgap (numeral_ne_nil partitions.toNat)
    (fun _ => isDigit_of_mem_numeral) hafter
  obtain ⟨s, t, rfl⟩ := hphysical
  have hmem : t ∈ afterEach "PPs".toList (s ++ "PPs".toList ++ t) := mem_afterEach.mpr ⟨s, rfl⟩
  obtain ⟨u, hu⟩ := Option.isSome_iff_exists.mp (List.isSome_head?.mpr (List.ne_nil_of_mem hmem))
  simp only [partitionFigure?, Option.bind_eq_bind, Option.bind_eq_some_iff]
  exact ⟨_, hspaced, u, hu, rfl⟩

lemma entry_partitions (hline : IsPartitionLine partitions line) :
    VolumeEntry.ofLine? line = some (.partitions (some partitions)) := by
  obtain ⟨hnames, after, ⟨before, gap, rfl, hfirst, hgap, hafter⟩, hphysical⟩ := hline
  have hfigure := partitionFigure?_read partitions hgap
    (fun c hc => digits_blank c (hafter c hc)) hphysical
  obtain ⟨others, hothers⟩ := afterEach_first (by decide) hfirst (gap ++ (numeral partitions.toNat ++ after))
  rw [VolumeEntry.ofLine?, afterEach_eq_nil hnames, hothers, List.findSome?_cons, hfigure]
  simp [readWord_numeral]

lemma partitions_missed (label : List Char) (h : ¬ "PPs".toList <:+: line) :
    (afterEach label line).findSome? partitionFigure? = none := by
  rw [List.findSome?_eq_none_iff]
  intro s hs
  cases hfigure : partitionFigure? s with
  | none => rfl
  | some digits =>
    simp only [partitionFigure?, Option.bind_eq_bind, Option.bind_eq_some_iff] at hfigure
    obtain ⟨⟨run, t⟩, hspaced, u, hu, _⟩ := hfigure
    obtain ⟨before, rfl⟩ := mem_afterEach.mp hs
    obtain ⟨gap, _, rfl, _, _⟩ := spacedRun?_eq_some hspaced
    obtain ⟨middle, rfl⟩ := mem_afterEach.mp (List.mem_of_mem_head? hu)
    exact absurd ⟨before ++ label ++ gap ++ run ++ middle, u, by simp only [List.append_assoc]⟩ h

lemma entry_unitSize (hline : IsUnitLine unitSize line) :
    VolumeEntry.ofLine? line = some (.unitSize (some unitSize)) := by
  obtain ⟨hnames, hphysical, after, hcolumn⟩ := hline
  have hdigits := labelled?_column digits_blank (by decide) (numeral_ne_nil unitSize.toNat)
    (fun _ => isDigit_of_mem_numeral) hcolumn
  rw [VolumeEntry.ofLine?, afterEach_eq_nil hnames, partitions_missed _ hphysical, hdigits, Option.map_some,
    readWord_numeral]
  rfl

lemma entry_policy (hline : IsPolicyLine policy line) :
    VolumeEntry.ofLine? line = some (.policy policy.word) := by
  obtain ⟨hnames, hphysical, hunit, after, hcolumn⟩ := hline
  have hne : policy.word.toList ≠ [] := by cases policy <;> decide
  have hword : ∀ c ∈ policy.word.toList, isWord c = true :=
    List.all_eq_true.mp (by cases policy <;> decide +kernel)
  have hpolicy := labelled?_column (fun _ => isWord_of_blank) (by decide) hne hword hcolumn
  rw [VolumeEntry.ofLine?, afterEach_eq_nil hnames, partitions_missed _ hphysical, labelled?_eq_none hunit,
    hpolicy, Option.map_some, String.ofList_toList]
  rfl

lemma entry_other (hline : IsOtherLine line) : VolumeEntry.ofLine? line = none := by
  obtain ⟨hnames, hpartitions, hunit, hpolicy⟩ := hline
  rw [VolumeEntry.ofLine?, afterEach_eq_nil hnames, afterEach_eq_nil hpartitions, labelled?_eq_none hunit,
    labelled?_eq_none hpolicy]
  rfl

end Entries

section Record

variable {volume group : List Char} {partitions : UInt64} {unitSize : Megabytes} {policy : PlacementPolicy}
  {report : String}

lemma VolumeRecord.scan_eq (report : String) : VolumeRecord.scan report =
    { name := (((VolumeEntry.ofReport report).filterMap VolumeEntry.names?).getLast?.getD (none, none)).1
      groupName := (((VolumeEntry.ofReport report).filterMap VolumeEntry.names?).getLast?.getD (none, none)).2
      partitions := ((VolumeEntry.ofReport report).filterMap VolumeEntry.partitions?).getLast?.getD none
      unitSize := ((VolumeEntry.ofReport report).filterMap VolumeEntry.unitSize?).getLast?.getD none
      policy := ((VolumeEntry.ofReport report).filterMap VolumeEntry.policy?).getLast?.getD none } := by
  have hnames := foldl_last note (fun r => (r.name, r.groupName)) VolumeEntry.names?
    (by intro r e; cases e <;> rfl) (VolumeEntry.ofReport report) {}
  have hpartitions := foldl_last note VolumeRecord.partitions VolumeEntry.partitions?
    (by intro r e; cases e <;> rfl) (VolumeEntry.ofReport report) {}
  have hunit := foldl_last note VolumeRecord.unitSize VolumeEntry.unitSize? (by intro r e; cases e <;> rfl)
    (VolumeEntry.ofReport report) {}
  have hpolicy := foldl_last note VolumeRecord.policy VolumeEntry.policy? (by intro r e; cases e <;> rfl)
    (VolumeEntry.ofReport report) {}
  rw [← hnames, ← hpartitions, ← hunit, ← hpolicy]
  rfl

lemma IsVolumeReport.entries (h : IsVolumeReport volume group partitions unitSize policy report) :
    ∀ e ∈ VolumeEntry.ofReport report,
      (∃ line, IsNameLine volume group line ∧ VolumeEntry.ofLine? line = some e) ∨
      e = .partitions (some partitions) ∨ e = .unitSize (some unitSize) ∨ e = .policy policy.word := by
  intro e he
  obtain ⟨line, hline, hentry⟩ := List.mem_filterMap.mp he
  rcases h.consistent line hline with hn | hl | hu | hp | ho
  · exact .inl ⟨line, hn, hentry⟩
  · exact .inr (.inl (by simpa [entry_partitions hl, eq_comm] using hentry))
  · exact .inr (.inr (.inl (by simpa [entry_unitSize hu, eq_comm] using hentry)))
  · exact .inr (.inr (.inr (by simpa [entry_policy hp, eq_comm] using hentry)))
  · simp [entry_other ho] at hentry

def said (volume group : List Char) (partitions : UInt64) (unitSize : Megabytes) (policy : PlacementPolicy) :
    List VolumeEntry :=
  [.names (String.ofList volume) (String.ofList (group.takeWhile isWord)), .partitions (some partitions),
    .unitSize (some unitSize), .policy policy.word]

lemma IsVolumeReport.mem_said (h : IsVolumeReport volume group partitions unitSize policy report)
    (hlegible : IsLegible volume group) (e : VolumeEntry) :
    e ∈ VolumeEntry.ofReport report ↔ e ∈ said volume group partitions unitSize policy := by
  constructor
  · intro he
    rcases h.entries e he with ⟨line, hn, hentry⟩ | he
    · simp [said, ← Option.some.inj (entry_names hn hlegible ▸ hentry)]
    · simp [said, he]
  · intro he
    simp only [said, List.mem_cons, List.not_mem_nil, or_false] at he
    rw [VolumeEntry.ofReport, List.mem_filterMap]
    rcases he with rfl | rfl | rfl | rfl
    · exact h.has_names.imp fun _ hl => ⟨hl.1, entry_names hl.2 hlegible⟩
    · exact h.has_partitions.imp fun _ hl => ⟨hl.1, entry_partitions hl.2⟩
    · exact h.has_unitSize.imp fun _ hl => ⟨hl.1, entry_unitSize hl.2⟩
    · exact h.has_policy.imp fun _ hl => ⟨hl.1, entry_policy hl.2⟩

/-- The record of a report that says these four things, however often and in whatever order. -/
lemma VolumeRecord.scan_of_mem {volume group word : String} (hmem : ∀ e, e ∈ VolumeEntry.ofReport report ↔
      e ∈ [.names volume group, .partitions (some partitions), .unitSize (some unitSize), .policy word]) :
    scan report = ⟨some volume, some group, some partitions, some unitSize, some word⟩ := by
  have hnames := said_last hmem VolumeEntry.names? (some volume, some group) (none, none)
    (by simp [VolumeEntry.names?]) (by simp [VolumeEntry.names?])
  rw [VolumeRecord.scan_eq, hnames]
  congr 1
  · exact said_last hmem _ _ _ (by simp [VolumeEntry.partitions?]) (by simp [VolumeEntry.partitions?])
  · exact said_last hmem _ _ _ (by simp [VolumeEntry.unitSize?]) (by simp [VolumeEntry.unitSize?])
  · exact said_last hmem _ _ _ (by simp [VolumeEntry.policy?]) (by simp [VolumeEntry.policy?])

lemma IsVolumeReport.scan_legible (h : IsVolumeReport volume group partitions unitSize policy report)
    (hlegible : IsLegible volume group) :
    VolumeRecord.scan report = ⟨some (String.ofList volume), some (String.ofList (group.takeWhile isWord)),
      some partitions, some unitSize, some policy.word⟩ :=
  VolumeRecord.scan_of_mem (h.mem_said hlegible)

lemma names_found_of_entry {line : List Char} {v g : String}
    (h : VolumeEntry.ofLine? line = some (.names v g)) :
    ∃ pair, (afterEach "LOGICAL VOLUME:".toList line).findSome? namePair? = some pair := by
  cases hfound : (afterEach "LOGICAL VOLUME:".toList line).findSome? namePair? with
  | some pair => exact ⟨pair, rfl⟩
  | none =>
    rw [VolumeEntry.ofLine?, hfound] at h
    generalize (afterEach "LPs:".toList line).findSome? partitionFigure? = figure at h
    generalize labelled? isDigit "PP SIZE:".toList line = unit at h
    generalize labelled? isWord "INTER-POLICY:".toList line = policy at h
    cases figure <;> cases unit <;> cases policy <;> simp at h

lemma IsVolumeReport.scan_illegible (h : IsVolumeReport volume group partitions unitSize policy report)
    (hlegible : ¬ IsLegible volume group) : (VolumeRecord.scan report).name = none := by
  have hnone : (VolumeEntry.ofReport report).filterMap VolumeEntry.names? = [] := by
    refine List.filterMap_eq_nil_iff.mpr fun e he => ?_
    rcases h.entries e he with ⟨line, hn, hentry⟩ | rfl | rfl | rfl
    · -- a line with names that are not recognised may still be taken for one of another kind
      cases e with
      | names v g =>
        obtain ⟨pair, hpair⟩ := names_found_of_entry hentry
        exact absurd (legible_of_names hn hpair) hlegible
      | partitions _ => rfl
      | unitSize _ => rfl
      | policy _ => rfl
    all_goals rfl
  rw [VolumeRecord.scan_eq, hnone]
  rfl

/-- A complete report is one on a volume exactly if its names can be recognised. The group's name is then the
word that it starts with. -/
theorem volumeFacts_ofReport (h : IsVolumeReport volume group partitions unitSize policy report)
    (hsize : partitions.toNat * unitSize.toNat < UInt64.size) :
    VolumeFacts.ofReport report = .ok (if IsLegible volume group then
      some ⟨String.ofList volume, String.ofList (group.takeWhile isWord), partitions * unitSize, policy⟩
      else none) := by
  have hpolicy : PlacementPolicy.ofText policy.word = .ok policy := by cases policy <;> rfl
  have hproduct : Number.product? partitions unitSize = some (partitions * unitSize) := by
    rw [Number.product?, if_pos hsize]
  by_cases hlegible : IsLegible volume group
  · rw [if_pos hlegible, VolumeFacts.ofReport, h.scan_legible hlegible]
    simp [VolumeRecord.finish, hpolicy, hproduct, Except.toOption]
  · rw [if_neg hlegible, VolumeFacts.ofReport, VolumeRecord.finish, h.scan_illegible hlegible]

end Record

/-- The facts of a finished record, or the first thing that is wrong with it. -/
inductive VolumeFinish (record : VolumeRecord) : Except Fault (Option VolumeFacts) → Prop
  | unnamed : record.name = none → VolumeFinish record (.ok none)
  | noGroup {name : String} : record.name = some name → record.groupName = none →
      VolumeFinish record (.error (.incompleteReport .volume name .groupName))
  | noPartitions {name : String} : record.name = some name → record.groupName.isSome = true →
      record.partitions = none → VolumeFinish record (.error (.incompleteReport .volume name .logicalPartitions))
  | noUnit {name : String} : record.name = some name → record.groupName.isSome = true →
      record.partitions.isSome = true → record.unitSize = none →
      VolumeFinish record (.error (.incompleteReport .volume name .unitSize))
  | noPolicy {name : String} : record.name = some name → record.groupName.isSome = true →
      record.partitions.isSome = true → record.unitSize.isSome = true →
      (∀ word policy, record.policy = some word → PlacementPolicy.ofText word ≠ .ok policy) →
      VolumeFinish record (.error (.incompleteReport .volume name .policy))
  | tooLarge {name word : String} {partitions unit : UInt64} {policy : PlacementPolicy} :
      record.name = some name → record.groupName.isSome = true → record.partitions = some partitions →
      record.unitSize = some unit → record.policy = some word → PlacementPolicy.ofText word = .ok policy →
      UInt64.size ≤ partitions.toNat * unit.toNat →
      VolumeFinish record (.error (.figureOutOfRange .volume name .logicalPartitions))
  | complete {volume : VolumeFacts} {word : String} {partitions unit : UInt64} :
      record.name = some volume.name → record.groupName = some volume.groupName →
      record.partitions = some partitions → record.unitSize = some unit → record.policy = some word →
      PlacementPolicy.ofText word = .ok volume.policy →
      partitions.toNat * unit.toNat < UInt64.size → volume.size = partitions * unit →
      VolumeFinish record (.ok (some volume))

lemma VolumeRecord.finish_spec (record : VolumeRecord) : VolumeFinish record record.finish := by
  rw [VolumeRecord.finish]
  cases hname : record.name with
  | none => exact .unnamed hname
  | some name =>
    cases hgroup : record.groupName with
    | none => exact .noGroup hname hgroup
    | some groupName =>
      have hnamed : record.groupName.isSome = true := by simp [hgroup]
      cases hpartitions : record.partitions with
      | none => exact .noPartitions hname hnamed hpartitions
      | some partitions =>
        have hcounted : record.partitions.isSome = true := by simp [hpartitions]
        cases hunit : record.unitSize with
        | none => exact .noUnit hname hnamed hcounted hunit
        | some unit =>
          have hsized : record.unitSize.isSome = true := by simp [hunit]
          cases hword : record.policy with
          | none => simpa using .noPolicy hname hnamed hcounted hsized (by simp [hword])
          | some word =>
            cases hpolicy : PlacementPolicy.ofText word with
            | error cause =>
              have hnone : ∀ w policy, record.policy = some w → PlacementPolicy.ofText w ≠ .ok policy := by
                rw [hword]
                rintro _ policy ⟨rfl⟩
                simp [hpolicy]
              simpa [hpolicy, Except.toOption] using .noPolicy hname hnamed hcounted hsized hnone
            | ok policy =>
              by_cases hsize : partitions.toNat * unit.toNat < UInt64.size
              · simpa [hpolicy, Except.toOption, Number.product?, hsize] using
                  .complete hname hgroup hpartitions hunit hword hpolicy hsize rfl
              · simpa [hpolicy, Except.toOption, Number.product?, hsize] using
                  .tooLarge hname hnamed hpartitions hunit hword hpolicy (Nat.le_of_not_lt hsize)

def sampleFigures : String :=
  "MAX LPs: 512   PP SIZE: 32 megabyte(s)\nLPs: 16   PPs: 16\nINTER-POLICY: maximum   RELOCATABLE: yes\n"

def sampleReport (volume group : String) : String :=
  String.ofList (nameLine [' '] volume.toList [' '] [' '] group.toList ++ '\n' :: sampleFigures.toList)

lemma not_mem_nameLine {volume group : List Char} {c : Char} (hvolume : IsSolid volume)
    (hgroup : IsSolid group) (hblank : isBlank c = true) (hspace : c ∉ [' '])
    (hfirst : c ∉ "LOGICAL VOLUME:".toList) (hsecond : c ∉ "VOLUME GROUP:".toList) :
    c ∉ nameLine [' '] volume [' '] [' '] group := by
  have hsolid : ∀ s, IsSolid s → c ∉ s := by
    intro s hs hc
    exact absurd hblank (by simp [hs.2 c hc])
  intro hc
  rcases List.mem_append.mp hc with hc | hc
  · exact hfirst hc
  rcases List.mem_append.mp hc with hc | hc
  · exact hspace hc
  rcases List.mem_append.mp hc with hc | hc
  · exact hsolid _ hvolume hc
  rcases List.mem_append.mp hc with hc | hc
  · exact hspace hc
  rcases List.mem_append.mp hc with hc | hc
  · exact hsecond hc
  rcases List.mem_append.mp hc with hc | hc
  · exact hspace hc
  · exact hsolid _ hgroup hc

lemma sampleReport_lines {volume group : String} (hvolume : IsSolid volume.toList)
    (hgroup : IsSolid group.toList) :
    lines (sampleReport volume group).toList =
      [nameLine [' '] volume.toList [' '] [' '] group.toList,
        "MAX LPs: 512   PP SIZE: 32 megabyte(s)".toList, "LPs: 16   PPs: 16".toList,
        "INTER-POLICY: maximum   RELOCATABLE: yes".toList] := by
  have hfeed := not_mem_nameLine hvolume hgroup (by decide +kernel : isBlank '\n' = true)
    (by decide +kernel) (by decide +kernel) (by decide +kernel)
  have hreturn := not_mem_nameLine hvolume hgroup (by decide +kernel : isBlank '\r' = true)
    (by decide +kernel) (by decide +kernel) (by decide +kernel)
  have hrest : lines sampleFigures.toList = ["MAX LPs: 512   PP SIZE: 32 megabyte(s)".toList,
      "LPs: 16   PPs: 16".toList, "INTER-POLICY: maximum   RELOCATABLE: yes".toList] := by decide +kernel
  rw [sampleReport, String.toList_ofList, lines_append_cons fun c hc => ne_of_mem_of_not_mem hc hfeed,
    dropReturn_of_last fun h => hreturn (List.mem_of_getLast? h), hrest]

lemma sampleReport_complete {volume group : String} (hvolume : IsSolid volume.toList)
    (hgroup : IsSolid group.toList) :
    IsVolumeReport volume.toList group.toList 16 32 .maximum (sampleReport volume group) := by
  have hnames : IsNameLine volume.toList group.toList
      (nameLine [' '] volume.toList [' '] [' '] group.toList) :=
    ⟨hvolume, hgroup, _, _, _, [], by rw [List.append_nil], by decide +kernel, by decide +kernel,
      by decide +kernel, by simp⟩
  have hunit : IsUnitLine 32 "MAX LPs: 512   PP SIZE: 32 megabyte(s)".toList :=
    ⟨by decide +kernel, by decide +kernel, " megabyte(s)".toList, "MAX LPs: 512   ".toList, " ".toList,
      by decide +kernel, by decide +kernel, by decide +kernel, by decide +kernel⟩
  have hpartitions : IsPartitionLine 16 "LPs: 16   PPs: 16".toList :=
    ⟨by decide +kernel, "   PPs: 16".toList, ⟨[], " ".toList, by decide +kernel, by decide +kernel,
      by decide +kernel, by decide +kernel⟩, by decide +kernel⟩
  have hpolicy : IsPolicyLine .maximum "INTER-POLICY: maximum   RELOCATABLE: yes".toList :=
    ⟨by decide +kernel, by decide +kernel, by decide +kernel, "   RELOCATABLE: yes".toList, [], " ".toList,
      by decide +kernel, by decide +kernel, by decide +kernel, by decide +kernel⟩
  constructor <;> rw [sampleReport_lines hvolume hgroup]
  · exact ⟨_, .head _, hnames⟩
  · exact ⟨_, .tail _ (.tail _ (.head _)), hpartitions⟩
  · exact ⟨_, .tail _ (.head _), hunit⟩
  · exact ⟨_, .tail _ (.tail _ (.tail _ (.head _))), hpolicy⟩
  · intro line hline
    cases hline with
    | head => exact .inl hnames
    | tail _ hline =>
      cases hline with
      | head => exact .inr (.inr (.inl hunit))
      | tail _ hline =>
        cases hline with
        | head => exact .inr (.inl hpartitions)
        | tail _ hline =>
          cases hline with
          | head => exact .inr (.inr (.inr (.inl hpolicy)))
          | tail _ hline => cases hline

end LogicalVolumes
