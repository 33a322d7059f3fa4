import LogicalVolumes.Desired.Basic
import LogicalVolumes.Proofs.Text.Trim
import Mathlib.Data.List.Forall2

/-! Lists of physical volumes: what is named in them, and that it makes no difference how often they have been
split before. -/

namespace LogicalVolumes.DesiredState

open LogicalVolumes.Text

structure IsVolumeName (name : String) : Prop where
  nonempty : name ≠ ""
  plain : ',' ∉ name.toList
  first : ∀ c, name.toList.head? = some c → isBlank c = false
  last : ∀ c, name.toList.getLast? = some c → isBlank c = false

/-- Each value is a join of its parts, and the names are those parts of all values that are not blank, in their
order and without the blanks around them. -/
def Lists (values names : List String) : Prop :=
  ∃ listings, List.Forall₂ (fun value parts => IsJoin ',' parts value.toList) values listings ∧
    List.Forall₂ (fun name part => IsTrimmed name.toList part) names
      (listings.flatten.filter fun part => part.any fun c => !isBlank c)

structure SplitsAlike (values : List String) : Prop where
  names : ∀ name ∈ splitPhysicalVolumes values, IsVolumeName name
  exact : Lists values (splitPhysicalVolumes values)
  append : ∀ others, splitPhysicalVolumes (values ++ others) =
    splitPhysicalVolumes values ++ splitPhysicalVolumes others
  presplit : ∀ before value after parts, values = before ++ value :: after → IsJoin ',' parts value.toList →
    splitPhysicalVolumes (before ++ (parts.map String.ofList ++ after)) = splitPhysicalVolumes values
  again : splitPhysicalVolumes (splitPhysicalVolumes values) = splitPhysicalVolumes values
  joined : splitPhysicalVolumes [",".intercalate (splitPhysicalVolumes values)] = splitPhysicalVolumes values

variable {values others names : List String} {value name : String} {parts : List (List Char)}

lemma split_append (values others : List String) : splitPhysicalVolumes (values ++ others) =
    splitPhysicalVolumes values ++ splitPhysicalVolumes others := by
  simp only [splitPhysicalVolumes, List.flatMap_append, List.filter_append, List.map_append]

lemma split_cons (value : String) (values : List String) : splitPhysicalVolumes (value :: values) =
    splitPhysicalVolumes [value] ++ splitPhysicalVolumes values :=
  split_append [value] values

lemma split_eq (values : List String) : splitPhysicalVolumes values =
    ((values.flatMap fun value => pieces (· == ',') value.toList).filter
      fun part => part.any fun c => !isBlank c).map fun part => String.ofList (trim part) := by
  have hkept : ∀ part : List Char, (!(trim part).isEmpty) = part.any fun c => !isBlank c := by
    intro part
    rw [Bool.eq_iff_iff]
    simp [trim_eq_nil_iff]
  simp only [splitPhysicalVolumes, ← List.map_flatMap, List.filter_map, List.map_map, Function.comp_def, hkept]

lemma lists_split (values : List String) : Lists values (splitPhysicalVolumes values) := by
  refine ⟨values.map fun value => pieces (· == ',') value.toList, ?_, ?_⟩
  · rw [List.forall₂_map_right_iff, List.forall₂_same]
    exact fun value _ => isJoin_pieces ',' value.toList
  · rw [split_eq, List.forall₂_map_left_iff, ← List.flatMap_def, List.forall₂_same]
    intro part _
    rw [String.toList_ofList]
    exact isTrimmed_trim part

lemma isVolumeName_of_mem (h : name ∈ splitPhysicalVolumes values) : IsVolumeName name := by
  rw [split_eq] at h
  obtain ⟨part, hpart, rfl⟩ := List.mem_map.mp h
  obtain ⟨hpiece, hkept⟩ := List.mem_filter.mp hpart
  obtain ⟨value, _, hpiece⟩ := List.mem_flatMap.mp hpiece
  have htrimmed := isTrimmed_trim part
  obtain ⟨before, after, hparts, _, _⟩ := htrimmed.parts
  refine ⟨?_, ?_, ?_, ?_⟩
  · intro hempty
    have hblank : ∀ c ∈ part, isBlank c = true := trim_eq_nil_iff.mp (by simpa using hempty)
    obtain ⟨c, hc, hsolid⟩ := List.any_eq_true.mp hkept
    simp [hblank c hc] at hsolid
  · rw [String.toList_ofList]
    intro hcomma
    have hmem : ',' ∈ part := by
      rw [hparts]
      exact List.mem_append_right _ (List.mem_append_left _ hcomma)
    exact absurd (not_of_mem_pieces hpiece ',' hmem) (by simp)
  · rw [String.toList_ofList]
    exact htrimmed.first
  · rw [String.toList_ofList]
    exact htrimmed.last

/-- A list that names one volume and nothing else. -/
lemma split_name (h : IsVolumeName name) : splitPhysicalVolumes [name] = [name] := by
  have hpieces : pieces (· == ',') name.toList = [name.toList] :=
    pieces_of_none fun c hc => beq_false_of_ne (ne_of_mem_of_not_mem hc h.plain)
  have htrim : trim name.toList = name.toList := trim_of_ends h.first h.last
  have hne : name.toList ≠ [] := fun hnil => h.nonempty (String.toList_inj.mp hnil)
  simp [splitPhysicalVolumes, hpieces, htrim, hne]

lemma split_names (h : ∀ name ∈ names, IsVolumeName name) : splitPhysicalVolumes names = names := by
  induction names with
  | nil => rfl
  | cons name names ih =>
    obtain ⟨hname, hnames⟩ := List.forall_mem_cons.mp h
    rw [split_cons, split_name hname, ih hnames, List.singleton_append]

lemma split_parts (h : IsJoin ',' parts value.toList) :
    splitPhysicalVolumes (parts.map String.ofList) = splitPhysicalVolumes [value] := by
  have hparts : ∀ part ∈ parts, pieces (· == ',') part = [part] := fun part hpart =>
    pieces_of_none fun c hc => beq_false_of_ne (ne_of_mem_of_not_mem hc (h.plain part hpart))
  have hall : (parts.map String.ofList).flatMap (fun value => pieces (· == ',') value.toList) = parts := by
    rw [List.flatMap_map]
    simp only [String.toList_ofList]
    rw [List.flatMap_congr hparts, List.flatMap_singleton']
  rw [split_eq, hall, split_eq, List.flatMap_singleton, h.eq_pieces]

lemma split_joined (h : ∀ name ∈ names, IsVolumeName name) :
    splitPhysicalVolumes [",".intercalate names] = names := by
  cases hnames : names with
  | nil => decide
  | cons name more =>
    rw [← hnames]
    have hjoin : IsJoin ',' (names.map String.toList) (",".intercalate names).toList := by
      refine ⟨?_, by simp [hnames], ?_⟩
      · rw [String.toList_intercalate]
        rfl
      · intro part hpart
        obtain ⟨name, hname, rfl⟩ := List.mem_map.mp hpart
        exact (h name hname).plain
    have hback : (names.map String.toList).map String.ofList = names := by
      simp [Function.comp_def]
    rw [← split_parts hjoin, hback]
    exact split_names h

theorem lists_split_alike (values : List String) : SplitsAlike values where
  names _ := isVolumeName_of_mem
  exact := lists_split values
  append := split_append values
  presplit before value after parts hvalues hparts := by
    rw [hvalues, split_append, split_append, split_parts hparts, split_append before, split_cons value after]
  again := split_names fun _ => isVolumeName_of_mem
  joined := split_joined fun _ => isVolumeName_of_mem

/-- Blank parts, a comma at either end and no value at all name nothing. -/
example : splitPhysicalVolumes [",hdisk1, hdisk2 ,", "\u3000", ""] = ["hdisk1", "hdisk2"] ∧
    splitPhysicalVolumes [] = [] := by
  decide +kernel

end LogicalVolumes.DesiredState
