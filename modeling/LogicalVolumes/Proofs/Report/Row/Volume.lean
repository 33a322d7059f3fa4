import LogicalVolumes.Proofs.Report.Row.Group
import LogicalVolumes.Proofs.Text.LetterCase

/-! The rows of a report on a logical volume, with other columns beside them, and the facts that are read from
them. -/

namespace LogicalVolumes

open Report Text

/-- What may stand on both sides of a row with a unit size or a policy. A label of logical partitions does no
harm as long as none of physical ones comes with it. -/
structure VolumeColumns (before after : List Char) : Prop where
  no_names : ¬ "LOGICAL VOLUME:".toList <:+: before ∧ ¬ "LOGICAL VOLUME:".toList <:+: after
  no_partitions : ¬ "LPs:".toList <:+: before ∧ ¬ "LPs:".toList <:+: after ∨
    ¬ "PPs".toList <:+: before ∧ ¬ "PPs".toList <:+: after

def IsNamesRow (volume group line : List Char) : Prop :=
  ∃ before gap₁ gap₂ gap₃ after, line = before ++ nameLine gap₁ volume gap₂ gap₃ (group ++ after) ∧
    ¬ "LOGICAL VOLUME:".toList <:+: before ∧ IsGap gap₁ ∧ IsGap gap₂ ∧ IsGap gap₃ ∧ EndsRun isWord after

def IsPartitionsRow (partitions : UInt64) (line : List Char) : Prop :=
  ∃ before gap after, line = before ++ ("LPs:".toList ++ (gap ++ (numeral partitions.toNat ++ after))) ∧
    ¬ "LOGICAL VOLUME:".toList <:+: before ∧ ¬ "LOGICAL VOLUME:".toList <:+: after ∧
    ¬ "LPs:".toList <:+: before ∧ IsGap gap ∧ EndsRun isDigit after ∧ "PPs".toList <:+: after

def IsVolumeUnitRow (unitSize : Megabytes) (line : List Char) : Prop :=
  ∃ before gap after, line = before ++ ("PP SIZE:".toList ++ (gap ++ (numeral unitSize.toNat ++ after))) ∧
    VolumeColumns before after ∧ ¬ "PP SIZE:".toList <:+: before ∧ IsGap gap ∧ EndsRun isDigit after

/-- The policy's word may be written in any letter case. -/
def IsPolicyRow (policy : PlacementPolicy) (line : List Char) : Prop :=
  ∃ before gap word after, line = before ++ ("INTER-POLICY:".toList ++ (gap ++ (word ++ after))) ∧
    word.map Char.toLower = policy.word.toList ∧ VolumeColumns before after ∧
    ¬ "PP SIZE:".toList <:+: before ∧ ¬ "PP SIZE:".toList <:+: after ∧ ¬ "INTER-POLICY:".toList <:+: before ∧
    IsGap gap ∧ EndsRun isWord after

/-- The report on a volume in any order of its rows, among lines that no rule matches. -/
def LaysOutVolume (volume : VolumeFacts) (partitions unitSize : UInt64) (report : String) : Prop :=
  ∃ names partitionsRow unitRow policyRow, IsNamesRow volume.name.toList volume.groupName.toList names ∧
    IsPartitionsRow partitions partitionsRow ∧ IsVolumeUnitRow unitSize unitRow ∧
    IsPolicyRow volume.policy policyRow ∧
    Shows SaysNothingOfVolume [names, partitionsRow, unitRow, policyRow] report

variable {label line volume group before gap word after : List Char} {c : Char} {partitions unitSize : UInt64}
  {policy : PlacementPolicy}

lemma HasPartitions.infix (h : HasPartitions line) : "LPs:".toList <:+: line ∧ "PPs".toList <:+: line := by
  obtain ⟨before, gap, c, rest, rfl, _, _, hphysical⟩ := h
  refine ⟨⟨before, gap ++ c :: rest, List.append_assoc ..⟩, hphysical.trans ?_⟩
  exact ⟨before ++ ("LPs:".toList ++ (gap ++ [c])), [], by simp⟩

lemma entry_namesRow (hvolume : volume ≠ [] ∧ ∀ c ∈ volume, isWord c = true)
    (hgroup : group ≠ [] ∧ ∀ c ∈ group, isWord c = true) (h : IsNamesRow volume group line) :
    VolumeEntry.ofLine? line = some (.names (String.ofList volume) (String.ofList group)) := by
  obtain ⟨before, gap₁, gap₂, gap₃, after, rfl, hfirst, h₁, h₂, h₃, hafter⟩ := h
  have htake : (group ++ after).takeWhile isWord = group := takeWhile_append hgroup.2 hafter
  have hread := namePair?_read hvolume.1 hvolume.2 h₁ h₂ h₃ (by rw [htake]; exact hgroup.1)
  rw [htake] at hread
  have hfound : (afterEach "LOGICAL VOLUME:".toList (before ++
      nameLine gap₁ volume gap₂ gap₃ (group ++ after))).findSome? namePair? = some (volume, group) := by
    obtain ⟨others, hothers⟩ := afterEach_first (by decide) hfirst
      (gap₁ ++ (volume ++ (gap₂ ++ ("VOLUME GROUP:".toList ++ (gap₃ ++ (group ++ after))))))
    unfold nameLine
    rw [hothers, List.findSome?_cons, hread]
  rw [VolumeEntry.ofLine?, hfound]
  rfl

/-- A label with a letter of its own and without digits is not on a row with a figure if the columns beside do
not hold it. -/
lemma not_infix_figureRow {w : List Char} (figure : Nat) (hbefore : ¬ label <:+: before)
    (hafter : ¬ label <:+: after) (hapart : Apart label w) (hc : c ∈ label)
    (hplain : isBlank c = false ∧ c ∉ w) (hdigits : label.Forall (isDigit · = false)) (hgap : IsGap gap) :
    ¬ label <:+: before ++ (w ++ (gap ++ (numeral figure ++ after))) := by
  have hmissing : c ∉ w ++ gap := by simp [hplain.2, not_mem_gap hplain.1 hgap]
  refine not_infix_beside hbefore hafter hapart hc hmissing (numeral_ne_nil figure) fun d hd hmem => ?_
  exact absurd (isDigit_of_mem_numeral hd) (by simp [List.forall_iff_forall_mem.mp hdigits d hmem])

lemma entry_partitionsRow (h : IsPartitionsRow partitions line) :
    VolumeEntry.ofLine? line = some (.partitions (some partitions)) := by
  obtain ⟨before, gap, after, rfl, hbefore, hcolumn, hfirst, hgap, hafter, hphysical⟩ := h
  have hnames := not_infix_figureRow (w := "LPs:".toList) (c := 'V') partitions.toNat hbefore hcolumn (by decide)
    (by decide) (by decide +kernel) (by decide +kernel) hgap
  obtain ⟨others, hothers⟩ := afterEach_first (by decide) hfirst (gap ++ (numeral partitions.toNat ++ after))
  rw [VolumeEntry.ofLine?, afterEach_eq_nil hnames, hothers, List.findSome?_cons,
    partitionFigure?_read partitions hgap hafter hphysical]
  simp [readWord_numeral]

lemma entry_volumeUnitRow (h : IsVolumeUnitRow unitSize line) :
    VolumeEntry.ofLine? line = some (.unitSize (some unitSize)) := by
  obtain ⟨before, gap, after, rfl, hcolumns, hfirst, hgap, hafter⟩ := h
  have hnames := not_infix_figureRow (w := "PP SIZE:".toList) (c := 'V') unitSize.toNat hcolumns.no_names.1
    hcolumns.no_names.2 (by decide) (by decide) (by decide +kernel) (by decide +kernel) hgap
  have hpartitions : ¬ HasPartitions
      (before ++ ("PP SIZE:".toList ++ (gap ++ (numeral unitSize.toNat ++ after)))) := by
    intro hhas
    rcases hcolumns.no_partitions with ⟨hb, ha⟩ | ⟨hb, ha⟩
    · exact not_infix_figureRow (c := 's') unitSize.toNat hb ha (by decide) (by decide) (by decide +kernel)
        (by decide +kernel) hgap hhas.infix.1
    · exact not_infix_figureRow (c := 's') unitSize.toNat hb ha (by decide) (by decide) (by decide +kernel)
        (by decide +kernel) hgap hhas.infix.2
  rw [VolumeEntry.ofLine?, afterEach_eq_nil hnames, partitions_eq_none_iff.mpr hpartitions,
    labelled?_first digits_blank (by decide) hfirst hgap (numeral_ne_nil unitSize.toNat)
      (fun _ => isDigit_of_mem_numeral) hafter, Option.map_some, readWord_numeral]
  rfl

/-- Both words have a letter, third of seven, that is in no label, and behind it none that starts one. -/
lemma policyWord_split (h : word.map Char.toLower = policy.word.toList) : ∃ front d tail,
    word = front ++ d :: tail ∧ (∀ c ∈ front, c.toLower ∈ "mai".toList) ∧ d.toLower ∈ "xn".toList ∧
    ∀ c ∈ tail, c.toLower ∈ "imu".toList := by
  have hword : ∃ front d tail, policy.word.toList = front ++ d :: tail ∧ (∀ c ∈ front, c ∈ "mai".toList) ∧
      d ∈ "xn".toList ∧ ∀ c ∈ tail, c ∈ "imu".toList := by
    have hletters {s t : List Char} (h : s.Forall (· ∈ t)) : ∀ c ∈ s, c ∈ t := List.forall_iff_forall_mem.mp h
    cases policy with
    | maximum =>
      exact ⟨"ma".toList, 'x', "imum".toList, rfl, hletters (by decide), by decide, hletters (by decide)⟩
    | minimum =>
      exact ⟨"mi".toList, 'n', "imum".toList, rfl, hletters (by decide), by decide, hletters (by decide)⟩
  obtain ⟨lowFront, lowD, lowTail, hlow, hfront, hd, htail⟩ := hword
  rw [hlow] at h
  obtain ⟨front, rest, rfl, rfl, hrest⟩ := List.map_eq_append_iff.mp h
  obtain ⟨d, tail, rfl, rfl, rfl⟩ := List.map_eq_cons_iff.mp hrest
  exact ⟨front, d, tail, rfl, fun c hc => hfront _ (List.mem_map_of_mem hc), hd,
    fun c hc => htail _ (List.mem_map_of_mem hc)⟩

lemma not_infix_policyRow (hword : word.map Char.toLower = policy.word.toList) (hgap : IsGap gap)
    (hbefore : ¬ label <:+: before) (hafter : ¬ label <:+: after)
    (hapart : Apart label "INTER-POLICY:".toList) (hc : c ∈ label)
    (hplain : isBlank c = false ∧ c ∉ "INTER-POLICY:".toList ∧ c.toLower ∉ "mai".toList)
    (hlabel : label.Forall (·.toLower ∉ "xn".toList))
    (hhead : (label.take 1).Forall (·.toLower ∉ "imu".toList)) :
    ¬ label <:+: before ++ ("INTER-POLICY:".toList ++ (gap ++ (word ++ after))) := by
  obtain ⟨front, d, tail, rfl, hfront, hd, htail⟩ := policyWord_split hword
  have hmissing : c ∉ "INTER-POLICY:".toList ++ (gap ++ front) := by
    have hgap := not_mem_gap hplain.1 hgap
    have hletters : c ∉ front := fun hmem => hplain.2.2 (hfront c hmem)
    rw [List.mem_append, List.mem_append]
    exact fun hmem => hmem.elim hplain.2.1 (·.elim hgap hletters)
  have houtside : d ∉ label := fun hmem => List.forall_iff_forall_mem.mp hlabel d hmem hd
  have hstart : ∀ l ∈ label.head?, l ∉ tail := by
    intro l hl hmem
    have hfirst : l ∈ label.take 1 := by simpa [List.take_one] using hl
    exact List.forall_iff_forall_mem.mp hhead l hfirst (htail l hmem)
  have hline := not_infix_columns tail hbefore hafter hapart hc hmissing houtside hstart
  simpa only [List.append_assoc, List.cons_append] using hline

lemma entry_policyRow (h : IsPolicyRow policy line) : ∃ word,
    VolumeEntry.ofLine? line = some (.policy word) ∧ PlacementPolicy.ofText word = .ok policy := by
  obtain ⟨before, gap, word, after, rfl, hword, hcolumns, hunit, hunit', hfirst, hgap, hafter⟩ := h
  have hnames := not_infix_policyRow (c := 'V') hword hgap hcolumns.no_names.1 hcolumns.no_names.2 (by decide)
    (by decide) (by decide +kernel) (by decide) (by decide)
  have hunits := not_infix_policyRow (c := 'S') hword hgap hunit hunit' (by decide) (by decide)
    (by decide +kernel) (by decide) (by decide)
  have hpartitions : ¬ HasPartitions (before ++ ("INTER-POLICY:".toList ++ (gap ++ (word ++ after)))) := by
    intro hhas
    rcases hcolumns.no_partitions with ⟨hb, ha⟩ | ⟨hb, ha⟩
    · exact not_infix_policyRow (c := 's') hword hgap hb ha (by decide) (by decide) (by decide +kernel)
        (by decide) (by decide) hhas.infix.1
    · exact not_infix_policyRow (c := 's') hword hgap hb ha (by decide) (by decide) (by decide +kernel)
        (by decide) (by decide) hhas.infix.2
  have hletters := PlacementPolicy.isAlpha_of_anyCase hword
  have hne : word ≠ [] := by
    rintro rfl
    cases policy <;> simp [PlacementPolicy.word] at hword
  refine ⟨String.ofList word, ?_, PlacementPolicy.ofText_anyCase hword⟩
  rw [VolumeEntry.ofLine?, afterEach_eq_nil hnames, partitions_eq_none_iff.mpr hpartitions,
    labelled?_eq_none hunits, labelled?_first (fun _ => isWord_of_blank) (by decide) hfirst hgap hne
      (fun c hc => isWord_of_isAlpha (hletters c hc)) hafter]
  rfl

lemma ofReport_laidOutVolume {volume : VolumeFacts} {report : String} (hvolume : IsName volume.name)
    (hgroup : IsName volume.groupName) (hsize : volume.size.toNat = partitions.toNat * unitSize.toNat)
    (h : LaysOutVolume volume partitions unitSize report) :
    VolumeFacts.ofReport report = .ok (some volume) := by
  obtain ⟨names, partitionsRow, unitRow, policyRow, hnames, hpartitions, hunit, hpolicy, hshows⟩ := h
  obtain ⟨word, hword, hread⟩ := entry_policyRow hpolicy
  have hvolumeWord : volume.name.toList ≠ [] := by simpa using hvolume.1
  have hgroupWord : volume.groupName.toList ≠ [] := by simpa using hgroup.1
  have hnamesEntry := entry_namesRow ⟨hvolumeWord, hvolume.2⟩ ⟨hgroupWord, hgroup.2⟩ hnames
  have hentries := hshows.entries VolumeEntry.ofLine? fun line => volumeEntry_eq_none_iff.mpr
  have hrows : [names, partitionsRow, unitRow, policyRow].filterMap VolumeEntry.ofLine? =
      [.names volume.name volume.groupName, .partitions (some partitions), .unitSize (some unitSize),
        .policy word] := by
    simp [hnamesEntry, entry_partitionsRow hpartitions, entry_volumeUnitRow hunit, hword]
  rw [hrows] at hentries
  -- the product of the two figures is a word because the volume's size is one
  have hfits : partitions.toNat * unitSize.toNat < UInt64.size := hsize ▸ volume.size.toNat_lt
  have hproduct : partitions * unitSize = volume.size := by
    rw [← UInt64.toNat_inj, UInt64.toNat_mul, Nat.mod_eq_of_lt hfits, hsize]
  rw [VolumeFacts.ofReport, VolumeRecord.scan_of_mem fun _ => hentries.mem_iff]
  simp [VolumeRecord.finish, hread, Except.toOption, Number.product?, hfits, hproduct]

/-- Reports give exactly what their rows say, in whatever order and however spaced the rows are, and whatever
other columns and lines are there. -/
theorem rows_decode :
    (∀ (group : GroupFacts) (report : String), IsName group.name → 0 < group.unitSize →
      LaysOutGroup group report → GroupFacts.ofReport report = .ok (some group)) ∧
    ∀ (volume : VolumeFacts) (partitions unitSize : UInt64) (report : String), IsName volume.name →
      IsName volume.groupName → volume.size.toNat = partitions.toNat * unitSize.toNat →
      LaysOutVolume volume partitions unitSize report → VolumeFacts.ofReport report = .ok (some volume) :=
  ⟨fun _ _ => ofReport_laidOutGroup, fun _ _ _ _ => ofReport_laidOutVolume⟩

def shuffledGroup : GroupFacts where
  name := "appvg"
  totalCapacity := 1280
  freeCapacity := 640
  unitSize := 64

def shuffledGroupLines : List (List Char × List Char) :=
  [("MAX LVs: 256   FREE PPs: 10 (640 megabytes)".toList, ['\r', '\n']),
    ("VG STATE: active\t PP SIZE: 64 megabyte(s)".toList, ['\n']),
    ("QUORUM: 2 (Enabled)".toList, ['\n']),
    ("VOLUME GROUP: appvg   VG IDENTIFIER: 00f6".toList, ['\r', '\n']),
    ("VG PERMISSION: read/write   TOTAL PPs: 20 (1280 megabytes)".toList, ['\n'])]

def shuffledGroupReport : String := String.ofList (shuffledGroupLines.flatMap fun l => l.1 ++ l.2)

def shuffledVolume : VolumeFacts where
  name := "testlv"
  groupName := "appvg"
  size := 512
  policy := .minimum

def shuffledVolumeLines : List (List Char × List Char) :=
  [("INTER-POLICY: Minimum   RELOCATABLE: yes".toList, ['\n']), ("LPs: 128   PPs: 128".toList, ['\r', '\n']),
    ("TYPE: jfs2   WRITE VERIFY: off".toList, ['\n']), ("MAX LPs: 512   PP SIZE: 4 megabyte(s)".toList, ['\n']),
    ("LOGICAL VOLUME: testlv   VOLUME GROUP: appvg".toList, ['\n'])]

def shuffledVolumeReport : String := String.ofList (shuffledVolumeLines.flatMap fun l => l.1 ++ l.2)

lemma groupColumn_of_checks {s : List Char} (h : bracketed? s = none ∧ ¬ "VOLUME GROUP:".toList <:+: s ∧
    ¬ "TOTAL PP".toList <:+: s ∧ ¬ "PP SIZE:".toList <:+: s ∧ ¬ "FREE PP".toList <:+: s) : GroupColumn s :=
  ⟨h.2.1, h.2.2.1, h.2.2.2.1, h.2.2.2.2, bracketed?_eq_none_iff.mp h.1⟩

lemma shuffledGroup_laidOut : LaysOutGroup shuffledGroup shuffledGroupReport := by
  have hfree : IsCapacityRow "FREE PPs:".toList 640 "MAX LVs: 256   FREE PPs: 10 (640 megabytes)".toList :=
    ⟨"MAX LVs: 256   ".toList, " 10 ".toList, [], by decide +kernel,
      List.forall_iff_forall_mem.mp (by decide +kernel), groupColumn_of_checks (by decide +kernel),
      groupColumn_of_checks (by decide +kernel)⟩
  have hunit : IsGroupUnitRow 64 "VG STATE: active\t PP SIZE: 64 megabyte(s)".toList :=
    ⟨"VG STATE: active\t ".toList, " ".toList, " megabyte(s)".toList, by decide +kernel, by decide +kernel,
      by rintro _ ⟨rfl⟩; decide +kernel, groupColumn_of_checks (by decide +kernel),
      groupColumn_of_checks (by decide +kernel)⟩
  have hname : IsGroupNameRow "appvg".toList "VOLUME GROUP: appvg   VG IDENTIFIER: 00f6".toList :=
    ⟨[], " ".toList, "   VG IDENTIFIER: 00f6".toList, by decide +kernel, by decide +kernel,
      by rintro _ ⟨rfl⟩; decide +kernel, groupColumn_of_checks (by decide +kernel),
      groupColumn_of_checks (by decide +kernel)⟩
  have htotal : IsCapacityRow "TOTAL PPs:".toList 1280
      "VG PERMISSION: read/write   TOTAL PPs: 20 (1280 megabytes)".toList :=
    ⟨"VG PERMISSION: read/write   ".toList, " 20 ".toList, [], by decide +kernel,
      List.forall_iff_forall_mem.mp (by decide +kernel), groupColumn_of_checks (by decide +kernel),
      groupColumn_of_checks (by decide +kernel)⟩
  have hsilent : SaysNothingOfGroup "QUORUM: 2 (Enabled)".toList := groupEntry_eq_none_iff.mp (by decide +kernel)
  have htext : IsText (shuffledGroupLines.map Prod.fst) shuffledGroupReport.toList := by
    rw [shuffledGroupReport, String.toList_ofList]
    exact .of_ended (by decide +kernel)
  have hshows : Shows SaysNothingOfGroup ["VOLUME GROUP: appvg   VG IDENTIFIER: 00f6".toList,
      "VG PERMISSION: read/write   TOTAL PPs: 20 (1280 megabytes)".toList,
      "VG STATE: active\t PP SIZE: 64 megabyte(s)".toList,
      "MAX LVs: 256   FREE PPs: 10 (640 megabytes)".toList] shuffledGroupReport :=
    ⟨_, ["QUORUM: 2 (Enabled)".toList], htext, by decide +kernel, List.forall_mem_singleton.mpr hsilent⟩
  exact ⟨_, _, _, _, hname, hunit, htotal, hfree, hshows⟩

lemma shuffledVolume_laidOut : LaysOutVolume shuffledVolume 128 4 shuffledVolumeReport := by
  have hpolicy : IsPolicyRow .minimum "INTER-POLICY: Minimum   RELOCATABLE: yes".toList :=
    ⟨[], " ".toList, "Minimum".toList, "   RELOCATABLE: yes".toList, by decide +kernel, by decide +kernel,
      ⟨by decide +kernel, .inr (by decide +kernel)⟩, by decide +kernel, by decide +kernel, by decide +kernel,
      by decide +kernel, by rintro _ ⟨rfl⟩; decide +kernel⟩
  have hpartitions : IsPartitionsRow 128 "LPs: 128   PPs: 128".toList :=
    ⟨[], " ".toList, "   PPs: 128".toList, by decide +kernel, by decide +kernel, by decide +kernel,
      by decide +kernel, by decide +kernel, by rintro _ ⟨rfl⟩; decide +kernel, by decide +kernel⟩
  -- the maximum of logical partitions stands beside the unit size, and nothing of physical ones
  have hunit : IsVolumeUnitRow 4 "MAX LPs: 512   PP SIZE: 4 megabyte(s)".toList :=
    ⟨"MAX LPs: 512   ".toList, " ".toList, " megabyte(s)".toList, by decide +kernel,
      ⟨by decide +kernel, .inr (by decide +kernel)⟩, by decide +kernel, by decide +kernel,
      by rintro _ ⟨rfl⟩; decide +kernel⟩
  have hnames : IsNamesRow "testlv".toList "appvg".toList
      "LOGICAL VOLUME: testlv   VOLUME GROUP: appvg".toList :=
    ⟨[], " ".toList, "   ".toList, " ".toList, [], by decide +kernel, by decide +kernel, by decide +kernel,
      by decide +kernel, by decide +kernel, by rintro _ ⟨⟩⟩
  have hsilent : SaysNothingOfVolume "TYPE: jfs2   WRITE VERIFY: off".toList :=
    volumeEntry_eq_none_iff.mp (by decide +kernel)
  have htext : IsText (shuffledVolumeLines.map Prod.fst) shuffledVolumeReport.toList := by
    rw [shuffledVolumeReport, String.toList_ofList]
    exact .of_ended (by decide +kernel)
  have hshows : Shows SaysNothingOfVolume ["LOGICAL VOLUME: testlv   VOLUME GROUP: appvg".toList,
      "LPs: 128   PPs: 128".toList, "MAX LPs: 512   PP SIZE: 4 megabyte(s)".toList,
      "INTER-POLICY: Minimum   RELOCATABLE: yes".toList] shuffledVolumeReport :=
    ⟨_, ["TYPE: jfs2   WRITE VERIFY: off".toList], htext, by decide +kernel,
      List.forall_mem_singleton.mpr hsilent⟩
  exact ⟨_, _, _, _, hnames, hpartitions, hunit, hpolicy, hshows⟩

theorem shuffled_rows_decode :
    LaysOutGroup shuffledGroup shuffledGroupReport ∧ LaysOutVolume shuffledVolume 128 4 shuffledVolumeReport ∧
    GroupFacts.ofReport shuffledGroupReport = .ok (some shuffledGroup) ∧
    VolumeFacts.ofReport shuffledVolumeReport = .ok (some shuffledVolume) := by
  have hgroupName : IsName "appvg" := ⟨by decide, List.all_eq_true.mp (by decide +kernel)⟩
  have hvolumeName : IsName "testlv" := ⟨by decide, List.all_eq_true.mp (by decide +kernel)⟩
  have hgroup := rows_decode.1 shuffledGroup shuffledGroupReport hgroupName (by decide) shuffledGroup_laidOut
  have hvolume := rows_decode.2 shuffledVolume 128 4 shuffledVolumeReport hvolumeName hgroupName (by decide)
    shuffledVolume_laidOut
  exact ⟨shuffledGroup_laidOut, shuffledVolume_laidOut, hgroup, hvolume⟩

end LogicalVolumes
