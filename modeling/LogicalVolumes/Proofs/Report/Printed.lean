import LogicalVolumes.Proofs.Report.Group
import LogicalVolumes.Proofs.Report.Volume

/-! Reports laid out in two columns, each a label with its value, and what is read back from them. -/

namespace LogicalVolumes

open Report Text

/-- The blanks between two columns, of which there is always one. -/
def spaces (n : Nat) : List Char := List.replicate (n + 1) ' '

structure Spacing where
  first : Nat
  middle : Nat
  last : Nat

def firstColumn (spacing : Spacing) (label value : List Char) : List Char :=
  label ++ (spaces spacing.first ++ (value ++ spaces spacing.middle))

def row (spacing : Spacing) (label₁ value₁ label₂ value₂ : List Char) : List Char :=
  firstColumn spacing label₁ value₁ ++ (label₂ ++ (spaces spacing.last ++ value₂))

def printed (rows : List (List Char)) : String := String.ofList (rows.flatMap (· ++ ['\n']))

/-- The letters and signs of a text: what is neither a decimal digit nor a space. -/
def letters (s : List Char) : List Char := s.filter fun c => !(c.isDigit || c == ' ')

def Unbroken (s : List Char) : Prop := ∀ c ∈ s, c ≠ '\n' ∧ c ≠ '\r'

instance (s : List Char) : Decidable (Unbroken s) := inferInstanceAs (Decidable (∀ c ∈ s, _))

section

variable {c : Char} {label label₁ label₂ value₁ value₂ s t : List Char} {spacing : Spacing} {n : Nat}

lemma row_eq : row spacing label₁ value₁ label₂ value₂ = label₁ ++ (spaces spacing.first ++ (value₁ ++
    (spaces spacing.middle ++ (label₂ ++ (spaces spacing.last ++ value₂))))) := by
  simp only [row, firstColumn, List.append_assoc]

lemma isGap_spaces (n : Nat) : IsGap (spaces n) := by
  refine ⟨by simp [spaces], fun c hc => ?_⟩
  obtain rfl : c = ' ' := List.eq_of_mem_replicate hc
  decide

lemma head_spaces (h : (spaces n ++ s).head? = some c) : c = ' ' := by
  simpa [spaces, List.replicate_succ, eq_comm] using h

/-- A label that the letters of a text do not spell is not in the text, whatever its figures and gaps. -/
lemma not_infix_of_letters (h : letters s = t) (hlabel : ¬ letters label <:+: t) : ¬ label <:+: s := by
  intro hwithin
  rw [← h] at hlabel
  exact hlabel (hwithin.filter _)

@[simp] lemma letters_append (s t : List Char) : letters (s ++ t) = letters s ++ letters t :=
  List.filter_append ..

@[simp] lemma letters_spaces (n : Nat) : letters (spaces n) = [] := by
  rw [letters, List.filter_eq_nil_iff]
  intro c hc
  obtain rfl : c = ' ' := List.eq_of_mem_replicate hc
  simp

@[simp] lemma letters_numeral (n : Nat) : letters (numeral n) = [] := by
  rw [letters, List.filter_eq_nil_iff]
  intro c hc
  simp [asciiDigit_of_mem_numeral hc]

lemma letters_firstColumn :
    letters (firstColumn spacing label₁ value₁) = letters label₁ ++ letters value₁ := by
  simp [firstColumn]

lemma letters_numberedColumn : letters (firstColumn spacing label₁ (numeral n)) = letters label₁ := by
  rw [letters_firstColumn, letters_numeral, List.append_nil]

lemma letters_row : letters (row spacing label₁ value₁ label₂ value₂) =
    letters label₁ ++ letters value₁ ++ (letters label₂ ++ letters value₂) := by
  simp [row, letters_firstColumn]

lemma unbroken_append (hs : Unbroken s) (ht : Unbroken t) : Unbroken (s ++ t) :=
  List.forall_mem_append.mpr ⟨hs, ht⟩

lemma unbroken_spaces (n : Nat) : Unbroken (spaces n) := by
  intro c hc
  obtain rfl : c = ' ' := List.eq_of_mem_replicate hc
  decide

lemma unbroken_solid (h : ∀ c ∈ s, isBlank c = false) : Unbroken s := by
  intro c hc
  have hsolid := h c hc
  constructor <;> (rintro rfl; exact absurd hsolid (by decide))

lemma unbroken_word (h : ∀ c ∈ s, isWord c = true) : Unbroken s :=
  unbroken_solid fun c hc => isBlank_of_word (h c hc)

lemma unbroken_numeral (n : Nat) : Unbroken (numeral n) := by
  refine unbroken_solid fun c hc => ?_
  have hdigit := isDigit_of_mem_numeral hc
  cases hblank : isBlank c with
  | false => rfl
  | true => exact absurd hdigit (by simp [isDigit_of_blank hblank])

lemma unbroken_row (h₁ : Unbroken label₁) (hv₁ : Unbroken value₁) (h₂ : Unbroken label₂)
    (hv₂ : Unbroken value₂) : Unbroken (row spacing label₁ value₁ label₂ value₂) := by
  have hfirst : Unbroken (firstColumn spacing label₁ value₁) :=
    unbroken_append h₁ (unbroken_append (unbroken_spaces _) (unbroken_append hv₁ (unbroken_spaces _)))
  exact unbroken_append hfirst (unbroken_append h₂ (unbroken_append (unbroken_spaces _) hv₂))

lemma lines_printed {rows : List (List Char)} (h : ∀ row ∈ rows, Unbroken row) :
    lines (printed rows).toList = rows := by
  rw [printed, String.toList_ofList]
  induction rows with
  | nil => rfl
  | cons row rows ih =>
    have hrow := h row (by simp)
    have hkept : dropReturn row = row :=
      dropReturn_of_last fun hlast => (hrow _ (List.mem_of_getLast? hlast)).2 rfl
    rw [List.flatMap_cons, List.append_assoc, List.singleton_append,
      lines_append_cons fun c hc => (hrow c hc).1, hkept, ih fun r hr => h r (by simp [hr])]

end

/-- A name that a report can show: one word. -/
def IsName (name : String) : Prop := name ≠ "" ∧ ∀ c ∈ name.toList, isWord c = true

structure GroupState extends GroupFacts where
  named : IsName name
  unitSize_pos : 0 < unitSize

structure VolumeState where
  name : String
  groupName : String
  partitions : UInt64
  unitSize : Megabytes
  policy : PlacementPolicy
  named : IsName name
  owned : IsName groupName
  size_fits : partitions.toNat * unitSize.toNat < UInt64.size

def VolumeState.facts (volume : VolumeState) : VolumeFacts where
  name := volume.name
  groupName := volume.groupName
  size := volume.partitions * volume.unitSize
  policy := volume.policy

/-- What a group's report shows besides the facts, and how far apart. -/
structure GroupLayout where
  identifier : String
  volumeLimit : Nat
  totalPartitions : Nat
  freePartitions : Nat
  nameSpacing : Spacing
  stateSpacing : Spacing
  permissionSpacing : Spacing
  limitSpacing : Spacing
  identifier_word : ∀ c ∈ identifier.toList, isWord c = true

/-- What a volume's report shows besides its state, and how far apart. -/
structure VolumeReportLayout where
  partitionLimit : Nat
  physicalPartitions : Nat
  nameSpacing : Spacing
  limitSpacing : Spacing
  partitionSpacing : Spacing
  policySpacing : Spacing

def unitFigure (unitSize : Megabytes) : List Char := numeral unitSize.toNat ++ " megabyte(s)".toList

def capacityFigure (partitions : Nat) (capacity : Megabytes) : List Char :=
  numeral partitions ++ (' ' :: '(' :: (numeral capacity.toNat ++ " megabytes)".toList))

namespace GroupLayout

variable (layout : GroupLayout) (group : GroupFacts)

def nameRow : List Char :=
  row layout.nameSpacing "VOLUME GROUP:".toList group.name.toList "VG IDENTIFIER:".toList
    layout.identifier.toList

def unitRow : List Char :=
  row layout.stateSpacing "VG STATE:".toList "active".toList "PP SIZE:".toList (unitFigure group.unitSize)

def totalRow : List Char :=
  row layout.permissionSpacing "VG PERMISSION:".toList "read/write".toList "TOTAL PPs:".toList
    (capacityFigure layout.totalPartitions group.totalCapacity)

def freeRow : List Char :=
  row layout.limitSpacing "MAX LVs:".toList (numeral layout.volumeLimit) "FREE PPs:".toList
    (capacityFigure layout.freePartitions group.freeCapacity)

def print : String :=
  printed [layout.nameRow group, layout.unitRow group, layout.totalRow group, layout.freeRow group]

end GroupLayout

namespace VolumeReportLayout

variable (layout : VolumeReportLayout) (volume : VolumeState)

def nameRow : List Char :=
  row layout.nameSpacing "LOGICAL VOLUME:".toList volume.name.toList "VOLUME GROUP:".toList
    volume.groupName.toList

def unitRow : List Char :=
  row layout.limitSpacing "MAX LPs:".toList (numeral layout.partitionLimit) "PP SIZE:".toList
    (unitFigure volume.unitSize)

def partitionRow : List Char :=
  row layout.partitionSpacing "LPs:".toList (numeral volume.partitions.toNat) "PPs:".toList
    (numeral layout.physicalPartitions)

def policyRow : List Char :=
  row layout.policySpacing "INTER-POLICY:".toList volume.policy.word.toList "RELOCATABLE:".toList "yes".toList

def print : String :=
  printed [layout.nameRow volume, layout.unitRow volume, layout.partitionRow volume, layout.policyRow volume]

end VolumeReportLayout

section

variable {c : Char} {spacing : Spacing}

lemma letters_unitFigure (unitSize : Megabytes) : letters (unitFigure unitSize) = "megabyte(s)".toList := by
  rw [unitFigure, letters_append, letters_numeral]
  simp [letters]

lemma letters_capacityFigure (partitions : Nat) (capacity : Megabytes) :
    letters (capacityFigure partitions capacity) = "(megabytes)".toList := by
  have hfigure : capacityFigure partitions capacity =
      numeral partitions ++ (" (".toList ++ (numeral capacity.toNat ++ " megabytes)".toList)) := rfl
  rw [hfigure, letters_append, letters_append, letters_append, letters_numeral, letters_numeral]
  simp [letters]

lemma unbroken_unitFigure (unitSize : Megabytes) : Unbroken (unitFigure unitSize) :=
  unbroken_append (unbroken_numeral _) (by simp [Unbroken])

lemma unbroken_capacityFigure (partitions : Nat) (capacity : Megabytes) :
    Unbroken (capacityFigure partitions capacity) :=
  unbroken_append (unbroken_numeral _) (unbroken_append (by simp [Unbroken] : Unbroken [' ', '('])
    (unbroken_append (unbroken_numeral _) (by simp [Unbroken])))

lemma isLabelled_first {p : Char → Bool} (hp : p ' ' = false) {label₁ : List Char} (hne : label₁ ≠ [])
    (value₁ label₂ value₂ : List Char) :
    IsLabelled p label₁ value₁ (row spacing label₁ value₁ label₂ value₂) := by
  refine ⟨[], spaces spacing.first, spaces spacing.middle ++ (label₂ ++ (spaces spacing.last ++ value₂)),
    row_eq, by simpa using hne, isGap_spaces _, fun c hc => ?_⟩
  rw [head_spaces hc, hp]

lemma isColumn_first {label₁ : List Char} (hne : label₁ ≠ []) (value₁ label₂ value₂ : List Char) :
    IsColumn label₁ value₁ (spaces spacing.middle ++ (label₂ ++ (spaces spacing.last ++ value₂)))
      (row spacing label₁ value₁ label₂ value₂) := by
  refine ⟨[], spaces spacing.first, row_eq, by simpa using hne, isGap_spaces _, fun c hc => ?_⟩
  rw [head_spaces hc]
  decide

lemma isBracketed_second {label₁ value₁ stem : List Char} (h : ¬ stem <:+: firstColumn spacing label₁ value₁)
    (rest : List Char) (partitions : Nat) (capacity : Megabytes) :
    IsBracketed stem (numeral capacity.toNat)
      (row spacing label₁ value₁ (stem ++ rest) (capacityFigure partitions capacity)) := by
  refine ⟨firstColumn spacing label₁ value₁, rest ++ (spaces spacing.last ++ (numeral partitions ++ [' '])),
    " megabytes)".toList, by simp [row, capacityFigure], h, fun c hc => ?_,
    not_opensDigits_of_not_mem (by decide)⟩
  obtain rfl : ' ' = c := by simpa using hc
  exact isDigit_of_blank (by decide)

end

section

variable (layout : GroupLayout) (group : GroupFacts)

lemma isGroupNameLine_nameRow : IsGroupNameLine group.name.toList (layout.nameRow group) :=
  isLabelled_first (isWord_of_blank (by decide)) (by decide) _ _ _

lemma letters_unitRow : letters (layout.unitRow group) = "VGSTATE:activePPSIZE:megabyte(s)".toList := by
  rw [GroupLayout.unitRow, letters_row, letters_unitFigure]
  simp [letters]

lemma isGroupUnitLine_unitRow : IsGroupUnitLine group.unitSize (layout.unitRow group) := by
  have hletters := letters_unitRow layout group
  have hname : ¬ "VOLUME GROUP:".toList <:+: layout.unitRow group :=
    not_infix_of_letters hletters (by simp [letters, List.infix_cons_iff])
  have htotal : ¬ "TOTAL PP".toList <:+: layout.unitRow group :=
    not_infix_of_letters hletters (by simp [letters, List.infix_cons_iff])
  have hfirst : ¬ "PP SIZE:".toList <:+: firstColumn layout.stateSpacing "VG STATE:".toList "active".toList :=
    not_infix_of_letters letters_firstColumn (by simp [letters, List.infix_cons_iff])
  refine ⟨hname, htotal, _, _, " megabyte(s)".toList, rfl, hfirst, isGap_spaces _, fun c hc => ?_⟩
  obtain rfl : ' ' = c := by simpa using hc
  exact isDigit_of_blank (by decide)

lemma letters_totalRow : letters (layout.totalRow group) =
    "VGPERMISSION:read/writeTOTALPPs:(megabytes)".toList := by
  rw [GroupLayout.totalRow, letters_row, letters_capacityFigure]
  simp [letters]

lemma isTotalLine_totalRow : IsTotalLine group.totalCapacity (layout.totalRow group) := by
  have hname : ¬ "VOLUME GROUP:".toList <:+: layout.totalRow group :=
    not_infix_of_letters (letters_totalRow layout group) (by simp [letters, List.infix_cons_iff])
  have hfirst : ¬ "TOTAL PP".toList <:+:
      firstColumn layout.permissionSpacing "VG PERMISSION:".toList "read/write".toList :=
    not_infix_of_letters letters_firstColumn (by simp [letters, List.infix_cons_iff])
  exact ⟨hname, isBracketed_second hfirst "s:".toList _ _⟩

lemma letters_freeRow : letters (layout.freeRow group) = "MAXLVs:FREEPPs:(megabytes)".toList := by
  rw [GroupLayout.freeRow, letters_row, letters_numeral, letters_capacityFigure]
  simp [letters]

lemma isFreeLine_freeRow : IsFreeLine group.freeCapacity (layout.freeRow group) := by
  have hletters := letters_freeRow layout group
  have hname : ¬ "VOLUME GROUP:".toList <:+: layout.freeRow group :=
    not_infix_of_letters hletters (by simp [letters, List.infix_cons_iff])
  have htotal : ¬ "TOTAL PP".toList <:+: layout.freeRow group :=
    not_infix_of_letters hletters (by simp [letters, List.infix_cons_iff])
  have hunit : ¬ "PP SIZE:".toList <:+: layout.freeRow group :=
    not_infix_of_letters hletters (by simp [letters, List.infix_cons_iff])
  have hfirst : ¬ "FREE PP".toList <:+:
      firstColumn layout.limitSpacing "MAX LVs:".toList (numeral layout.volumeLimit) :=
    not_infix_of_letters letters_numberedColumn (by simp [letters, List.infix_cons_iff])
  exact ⟨hname, htotal, hunit, isBracketed_second hfirst "s:".toList _ _⟩

end

section

variable (layout : GroupLayout) (group : GroupState)

lemma unbroken_groupRows : ∀ row ∈ [layout.nameRow group.toGroupFacts, layout.unitRow group.toGroupFacts,
    layout.totalRow group.toGroupFacts, layout.freeRow group.toGroupFacts], Unbroken row := by
  intro r hr
  simp only [List.mem_cons, List.not_mem_nil, or_false] at hr
  rcases hr with rfl | rfl | rfl | rfl
  · exact unbroken_row (by simp [Unbroken]) (unbroken_word group.named.2) (by simp [Unbroken])
      (unbroken_word layout.identifier_word)
  · exact unbroken_row (by simp [Unbroken]) (by simp [Unbroken]) (by simp [Unbroken]) (unbroken_unitFigure _)
  · exact unbroken_row (by simp [Unbroken]) (by simp [Unbroken]) (by simp [Unbroken])
      (unbroken_capacityFigure _ _)
  · exact unbroken_row (by simp [Unbroken]) (unbroken_numeral _) (by simp [Unbroken])
      (unbroken_capacityFigure _ _)

lemma lines_printGroup : lines (layout.print group.toGroupFacts).toList =
    [layout.nameRow group.toGroupFacts, layout.unitRow group.toGroupFacts, layout.totalRow group.toGroupFacts,
      layout.freeRow group.toGroupFacts] :=
  lines_printed (unbroken_groupRows layout group)

lemma isGroupReport_print : IsGroupReport group.toGroupFacts (layout.print group.toGroupFacts) where
  has_name := ⟨_, by simp [lines_printGroup], isGroupNameLine_nameRow layout _⟩
  has_total := ⟨_, by simp [lines_printGroup], isTotalLine_totalRow layout _⟩
  has_unitSize := ⟨_, by simp [lines_printGroup], isGroupUnitLine_unitRow layout _⟩
  has_free := ⟨_, by simp [lines_printGroup], isFreeLine_freeRow layout _⟩
  consistent := by
    intro line hline
    simp only [lines_printGroup, List.mem_cons, List.not_mem_nil, or_false] at hline
    rcases hline with rfl | rfl | rfl | rfl
    · exact .inl (isGroupNameLine_nameRow layout _)
    · exact .inr (.inr (.inl (isGroupUnitLine_unitRow layout _)))
    · exact .inr (.inl (isTotalLine_totalRow layout _))
    · exact .inr (.inr (.inr (.inl (isFreeLine_freeRow layout _))))

/-- What is printed of a group is read back. -/
lemma ofReport_printGroup :
    GroupFacts.ofReport (layout.print group.toGroupFacts) = .ok (some group.toGroupFacts) :=
  groupFacts_ofReport (isGroupReport_print layout group) group.named.1 group.named.2 group.unitSize_pos

end

section

variable (layout : VolumeReportLayout) (volume : VolumeState)

lemma isSolid_of_name {name : String} (h : IsName name) : IsSolid name.toList :=
  ⟨by simpa using h.1, fun c hc => isBlank_of_word (h.2 c hc)⟩

lemma isNameLine_nameRow : IsNameLine volume.name.toList volume.groupName.toList (layout.nameRow volume) := by
  have hrow : layout.nameRow volume = nameLine (spaces layout.nameSpacing.first) volume.name.toList
      (spaces layout.nameSpacing.middle) (spaces layout.nameSpacing.last)
      (volume.groupName.toList ++ []) := by
    rw [List.append_nil]
    exact row_eq
  exact ⟨isSolid_of_name volume.named, isSolid_of_name volume.owned, _, _, _, [], hrow, isGap_spaces _,
    isGap_spaces _, isGap_spaces _, by simp⟩

lemma letters_volumeUnitRow : letters (layout.unitRow volume) = "MAXLPs:PPSIZE:megabyte(s)".toList := by
  rw [VolumeReportLayout.unitRow, letters_row, letters_numeral, letters_unitFigure]
  simp [letters]

lemma isUnitLine_unitRow : IsUnitLine volume.unitSize (layout.unitRow volume) := by
  have hletters := letters_volumeUnitRow layout volume
  have hnames : ¬ "LOGICAL VOLUME:".toList <:+: layout.unitRow volume :=
    not_infix_of_letters hletters (by simp [letters, List.infix_cons_iff])
  have hphysical : ¬ "PPs".toList <:+: layout.unitRow volume :=
    not_infix_of_letters hletters (by simp [letters, List.infix_cons_iff])
  have hfirst : ¬ "PP SIZE:".toList <:+:
      firstColumn layout.limitSpacing "MAX LPs:".toList (numeral layout.partitionLimit) :=
    not_infix_of_letters letters_numberedColumn (by simp [letters, List.infix_cons_iff])
  exact ⟨hnames, hphysical, " megabyte(s)".toList, _, _, rfl, hfirst, isGap_spaces _, by decide⟩

lemma letters_partitionRow : letters (layout.partitionRow volume) = "LPs:PPs:".toList := by
  rw [VolumeReportLayout.partitionRow, letters_row, letters_numeral, letters_numeral]
  simp [letters]

lemma isPartitionLine_partitionRow : IsPartitionLine volume.partitions (layout.partitionRow volume) := by
  have hnames : ¬ "LOGICAL VOLUME:".toList <:+: layout.partitionRow volume :=
    not_infix_of_letters (letters_partitionRow layout volume) (by simp [letters, List.infix_cons_iff])
  have hlabel : "PPs:".toList = "PPs".toList ++ ":".toList := rfl
  refine ⟨hnames, _, isColumn_first (by decide) _ _ _, spaces layout.partitionSpacing.middle,
    ":".toList ++ (spaces layout.partitionSpacing.last ++ numeral layout.physicalPartitions), ?_⟩
  simp only [hlabel, List.append_assoc]

lemma letters_policyRow : letters (layout.policyRow volume) =
    "INTER-POLICY:".toList ++ (volume.policy.word.toList ++ "RELOCATABLE:yes".toList) := by
  rw [VolumeReportLayout.policyRow, letters_row]
  cases volume.policy <;> simp [PlacementPolicy.word, letters]

lemma isPolicyLine_policyRow : IsPolicyLine volume.policy (layout.policyRow volume) := by
  have hletters := letters_policyRow layout volume
  refine ⟨not_infix_of_letters hletters ?_, not_infix_of_letters hletters ?_,
    not_infix_of_letters hletters ?_, _, isColumn_first (by decide) _ _ _⟩
  all_goals cases volume.policy <;> simp [PlacementPolicy.word, letters, List.infix_cons_iff]

lemma unbroken_volumeRows : ∀ row ∈ [layout.nameRow volume, layout.unitRow volume, layout.partitionRow volume,
    layout.policyRow volume], Unbroken row := by
  intro r hr
  simp only [List.mem_cons, List.not_mem_nil, or_false] at hr
  rcases hr with rfl | rfl | rfl | rfl
  · exact unbroken_row (by simp [Unbroken]) (unbroken_word volume.named.2) (by simp [Unbroken])
      (unbroken_word volume.owned.2)
  · exact unbroken_row (by simp [Unbroken]) (unbroken_numeral _) (by simp [Unbroken]) (unbroken_unitFigure _)
  · exact unbroken_row (by simp [Unbroken]) (unbroken_numeral _) (by simp [Unbroken]) (unbroken_numeral _)
  · have hpolicy : Unbroken volume.policy.word.toList := by
      cases volume.policy <;> simp [PlacementPolicy.word, Unbroken]
    exact unbroken_row (by simp [Unbroken]) hpolicy (by simp [Unbroken]) (by simp [Unbroken])

lemma lines_printVolume : lines (layout.print volume).toList =
    [layout.nameRow volume, layout.unitRow volume, layout.partitionRow volume, layout.policyRow volume] :=
  lines_printed (unbroken_volumeRows layout volume)

lemma isVolumeReport_print : IsVolumeReport volume.name.toList volume.groupName.toList volume.partitions
    volume.unitSize volume.policy (layout.print volume) where
  has_names := ⟨_, by simp [lines_printVolume], isNameLine_nameRow layout volume⟩
  has_partitions := ⟨_, by simp [lines_printVolume], isPartitionLine_partitionRow layout volume⟩
  has_unitSize := ⟨_, by simp [lines_printVolume], isUnitLine_unitRow layout volume⟩
  has_policy := ⟨_, by simp [lines_printVolume], isPolicyLine_policyRow layout volume⟩
  consistent := by
    intro line hline
    simp only [lines_printVolume, List.mem_cons, List.not_mem_nil, or_false] at hline
    rcases hline with rfl | rfl | rfl | rfl
    · exact .inl (isNameLine_nameRow layout volume)
    · exact .inr (.inr (.inl (isUnitLine_unitRow layout volume)))
    · exact .inr (.inl (isPartitionLine_partitionRow layout volume))
    · exact .inr (.inr (.inr (.inl (isPolicyLine_policyRow layout volume))))

lemma owner_whole : volume.groupName.toList.takeWhile isWord = volume.groupName.toList := by
  simpa using takeWhile_append (t := []) volume.owned.2 (by simp)

lemma isLegible_names : IsLegible volume.name.toList volume.groupName.toList :=
  ⟨volume.named.2, by rw [owner_whole]; simpa using volume.owned.1⟩

/-- What is printed of a volume is read back, its size as the product of the two figures. -/
lemma ofReport_printVolume : VolumeFacts.ofReport (layout.print volume) = .ok (some volume.facts) := by
  rw [volumeFacts_ofReport (isVolumeReport_print layout volume) volume.size_fits,
    if_pos (isLegible_names volume), owner_whole, String.ofList_toList, String.ofList_toList]
  rfl

end

def sampleGroup : GroupState where
  name := "testvg"
  totalCapacity := 10168
  freeCapacity := 1000
  unitSize := 4
  named := ⟨by decide, List.all_eq_true.mp (by decide +kernel)⟩
  unitSize_pos := by decide

def sampleGroupLayout : GroupLayout where
  identifier := "00f6f5d000004c000000016d3c3e0a3d"
  volumeLimit := 256
  totalPartitions := 2542
  freePartitions := 250
  nameSpacing := ⟨6, 18, 1⟩
  stateSpacing := ⟨10, 18, 7⟩
  permissionSpacing := ⟨5, 14, 5⟩
  limitSpacing := ⟨11, 21, 6⟩
  identifier_word := List.all_eq_true.mp (by decide +kernel)

example : sampleGroupLayout.print sampleGroup.toGroupFacts =
    "VOLUME GROUP:       testvg                   VG IDENTIFIER:  00f6f5d000004c000000016d3c3e0a3d\n" ++
    "VG STATE:           active                   PP SIZE:        4 megabyte(s)\n" ++
    "VG PERMISSION:      read/write               TOTAL PPs:      2542 (10168 megabytes)\n" ++
    "MAX LVs:            256                      FREE PPs:       250 (1000 megabytes)\n" := by
  cbv

def sampleVolume : VolumeState where
  name := "testlv"
  groupName := "testvg"
  partitions := 128
  unitSize := 4
  policy := .maximum
  named := ⟨by decide, List.all_eq_true.mp (by decide +kernel)⟩
  owned := ⟨by decide, List.all_eq_true.mp (by decide +kernel)⟩
  size_fits := by decide

def sampleVolumeLayout : VolumeReportLayout where
  partitionLimit := 512
  physicalPartitions := 128
  nameSpacing := ⟨4, 16, 2⟩
  limitSpacing := ⟨11, 19, 7⟩
  partitionSpacing := ⟨15, 19, 11⟩
  policySpacing := ⟨6, 15, 3⟩

example : sampleVolumeLayout.print sampleVolume =
    "LOGICAL VOLUME:     testlv                 VOLUME GROUP:   testvg\n" ++
    "MAX LPs:            512                    PP SIZE:        4 megabyte(s)\n" ++
    "LPs:                128                    PPs:            128\n" ++
    "INTER-POLICY:       maximum                RELOCATABLE:    yes\n" := by
  cbv

end LogicalVolumes
