import LogicalVolumes.Proofs.Report.Margin
import Mathlib.Logic.Relation

/-! A report with other line endings and other blanks around its lines. -/

namespace LogicalVolumes

open Text

def IsPadding (s : List Char) : Prop := ∀ c ∈ s, isBlank c = true ∧ c ≠ '\n'

/-- A line starts where the text ends. -/
def StartsLine (text : List Char) : Prop := text = [] ∨ ∃ earlier, text = earlier ++ ['\n']

/-- The line before the text ends where it starts. -/
def EndsLine (text : List Char) : Prop := text = [] ∨ ∃ later, text = '\n' :: later

/-- One change around the lines of a text: a carriage return before a line feed, a line feed at the end, or white
space in front of what a line contains or behind it. -/
inductive Respaced : List Char → List Char → Prop
  | ending (before after : List Char) : Respaced (before ++ '\n' :: after) (before ++ '\r' :: '\n' :: after)
  | final (text : List Char) : Respaced text (text ++ ['\n'])
  | inFront {before lead padding after : List Char} : StartsLine before → IsPadding lead → IsPadding padding →
      Respaced (before ++ (lead ++ after)) (before ++ (lead ++ (padding ++ after)))
  | behind {before padding trail after : List Char} : IsPadding padding → IsPadding trail → EndsLine after →
      Respaced (before ++ (trail ++ after)) (before ++ (padding ++ (trail ++ after)))

/-- What a text says, from its pieces between line feeds. -/
def findings {ε : Type} (read : List Char → Option ε) (text : List Char) : List ε :=
  (pieces (· == '\n') text).filterMap read

variable {ε : Type} {read : List Char → Option ε} {before padding after lead text other line : List Char}

lemma isPadding_iff : IsPadding padding ↔ (padding.all fun c => isBlank c && c != '\n') = true := by
  simp [IsPadding]

instance (s : List Char) : Decidable (IsPadding s) := decidable_of_iff _ isPadding_iff.symm

lemma IsPadding.plain (h : IsPadding padding) : ∀ c ∈ padding, (c == '\n') = false :=
  fun c hc => beq_false_of_ne (h c hc).2

lemma IsPadding.append (hlead : IsPadding lead) (h : IsPadding padding) : IsPadding (lead ++ padding) :=
  List.forall_mem_append.mpr ⟨hlead, h⟩

lemma findings_feed (read : List Char → Option ε) (before after : List Char) :
    findings read (before ++ '\n' :: after) = findings read before ++ findings read after := by
  rw [findings, pieces_append_cons (by decide), List.filterMap_append, findings, findings]

section

variable (hread : IgnoresMargins read)

include hread

lemma read_dropReturn (line : List Char) : read (dropReturn line) = read line := by
  rw [dropReturn]
  split
  · next hlast =>
    obtain ⟨kept, rfl⟩ := List.getLast?_eq_some_iff.mp hlast
    rw [List.dropLast_concat]
    exact (hread [] ['\r'] kept (by simp) (List.forall_mem_singleton.mpr (by decide))).symm
  · rfl

lemma filterMap_endedLines (hnothing : read [] = none) (parts : List (List Char)) :
    (endedLines parts).filterMap read = parts.filterMap read := by
  induction parts using endedLines.induct with
  | case1 => rfl
  | case2 rest hempty => simp [endedLines, List.isEmpty_iff.mp hempty, hnothing]
  | case3 rest hrest => simp [endedLines, hrest]
  | case4 line more hmore ih =>
    rw [endedLines.eq_3 line more hmore, List.filterMap_cons, read_dropReturn hread, ih, List.filterMap_cons]

lemma findings_padding_append (hpadding : IsPadding padding) (text : List Char) :
    findings read (padding ++ text) = findings read text := by
  obtain ⟨first, more, htext, hpadded⟩ := pieces_plain_append hpadding.plain text
  have hfirst := hread padding [] first (fun c hc => (hpadding c hc).1) (by simp)
  rw [List.append_nil] at hfirst
  rw [findings, findings, htext, hpadded, List.filterMap_cons, hfirst, List.filterMap_cons]

lemma findings_append_padding (hpadding : IsPadding padding) (text : List Char) :
    findings read (text ++ padding) = findings read text := by
  obtain ⟨more, last, htext, hpadded⟩ := pieces_append_plain hpadding.plain text
  have hlast := hread [] padding last (by simp) fun c hc => (hpadding c hc).1
  rw [List.nil_append] at hlast
  rw [findings, findings, htext, hpadded, List.filterMap_append, List.filterMap_append,
    List.filterMap_cons, hlast, List.filterMap_cons]

lemma findings_inFront (hbefore : StartsLine before) (hpadding : IsPadding padding) (after : List Char) :
    findings read (before ++ (padding ++ after)) = findings read (before ++ after) := by
  rcases hbefore with rfl | ⟨earlier, rfl⟩
  · exact findings_padding_append hread hpadding after
  · simp only [List.append_assoc, List.singleton_append, findings_feed, findings_padding_append hread hpadding]

lemma findings_behind (hpadding : IsPadding padding) (hafter : EndsLine after) (before : List Char) :
    findings read (before ++ (padding ++ after)) = findings read (before ++ after) := by
  rw [← List.append_assoc]
  rcases hafter with rfl | ⟨later, rfl⟩
  · rw [List.append_nil, List.append_nil, findings_append_padding hread hpadding]
  · rw [findings_feed, findings_feed, findings_append_padding hread hpadding]

variable (hnothing : read [] = none)

include hnothing

lemma Respaced.findings_eq (h : Respaced text other) : findings read text = findings read other := by
  cases h with
  | ending before after =>
    exact (findings_behind hread (by decide : IsPadding ['\r']) (.inr ⟨after, rfl⟩) before).symm
  | final =>
    have hopen : findings read [] = [] := List.filterMap_cons_none hnothing
    rw [findings_feed, hopen, List.append_nil]
  | inFront hbefore hlead hpadding =>
    rw [findings_inFront hread hbefore hlead, findings_inFront hread hbefore hlead,
      findings_inFront hread hbefore hpadding]
  | @behind before padding trail after hpadding htrail hafter =>
    rw [← List.append_assoc padding, findings_behind hread (hpadding.append htrail) hafter,
      findings_behind hread htrail hafter]

lemma filterMap_lines_respaced (h : Relation.EqvGen Respaced text other) :
    (lines text).filterMap read = (lines other).filterMap read := by
  rw [lines, lines, filterMap_endedLines hread hnothing, filterMap_endedLines hread hnothing]
  induction h with
  | rel text other hstep => exact hstep.findings_eq hread hnothing
  | refl text => rfl
  | symm text other _ ih => exact ih.symm
  | trans text middle other _ _ ihtext ihother => exact ihtext.trans ihother

end

/-- However often a report is respaced, forward and back, the records scanned from it stay the same. -/
theorem respaced_reports_scan_alike {report other : String}
    (h : Relation.EqvGen Respaced report.toList other.toList) :
    GroupRecord.scan report = GroupRecord.scan other ∧ VolumeRecord.scan report = VolumeRecord.scan other := by
  have hgroup := filterMap_lines_respaced groupEntry_ignoresMargins rfl h
  have hvolume := filterMap_lines_respaced volumeEntry_ignoresMargins rfl h
  rw [GroupRecord.scan, GroupRecord.scan, hgroup, VolumeRecord.scan, VolumeRecord.scan, hvolume]
  exact ⟨rfl, rfl⟩

/-- Two lines with nothing around them. -/
def tightRows (row₁ row₂ : List Char) : List Char := row₁ ++ '\n' :: row₂

/-- The same lines after white space of several kinds, with other endings. -/
def looseRows (row₁ row₂ : List Char) : List Char :=
  "\t ".toList ++ ((row₁ ++ '\r' :: '\n' :: row₂) ++ (" \u3000".toList ++ ['\n']))

lemma looseRows_respaced (row₁ row₂ : List Char) :
    Relation.EqvGen Respaced (tightRows row₁ row₂) (looseRows row₁ row₂) := by
  have hending := Respaced.ending row₁ row₂
  have hfinal := Respaced.final (row₁ ++ '\r' :: '\n' :: row₂)
  have hbehind : Respaced ((row₁ ++ '\r' :: '\n' :: row₂) ++ ([] ++ ['\n']))
      ((row₁ ++ '\r' :: '\n' :: row₂) ++ (" \u3000".toList ++ ([] ++ ['\n']))) :=
    .behind (by decide) (by decide) (.inr ⟨[], rfl⟩)
  have hinFront (text : List Char) : Respaced ([] ++ ([] ++ text)) ([] ++ ([] ++ ("\t ".toList ++ text))) :=
    .inFront (.inl rfl) (by decide) (by decide)
  exact .trans _ _ _ (.rel _ _ hending) (.trans _ _ _ (.rel _ _ hfinal)
    (.trans _ _ _ (.rel _ _ hbehind) (.rel _ _ (hinFront _))))

def tightReport : String := String.ofList (tightRows "VOLUME GROUP: datavg".toList "PP SIZE: 64".toList)

def looseReport : String := String.ofList (looseRows "VOLUME GROUP: datavg".toList "PP SIZE: 64".toList)

lemma looseReport_respaced : Relation.EqvGen Respaced tightReport.toList looseReport.toList := by
  rw [tightReport, looseReport, String.toList_ofList, String.toList_ofList]
  exact looseRows_respaced _ _

theorem loose_report_scans_alike : Relation.EqvGen Respaced tightReport.toList looseReport.toList ∧
    GroupRecord.scan tightReport = { name := some "datavg", unitSize := some 64 } ∧
    GroupRecord.scan tightReport = GroupRecord.scan looseReport ∧
    VolumeRecord.scan tightReport = VolumeRecord.scan looseReport :=
  ⟨looseReport_respaced, by decide +kernel, respaced_reports_scan_alike looseReport_respaced⟩

end LogicalVolumes
