import LogicalVolumes.Proofs.Report.Label
import LogicalVolumes.Proofs.Text.Trim
import LogicalVolumes.Report.Group
import LogicalVolumes.Report.Volume

/-! Blanks around a line: no rule of a report finds more, less or anything else between them. -/

namespace LogicalVolumes

open Report Text

variable {β : Type}

def IgnoresTrail (read : List Char → Option β) : Prop :=
  ∀ (after s : List Char), (∀ c ∈ after, isBlank c = true) → read (s ++ after) = read s

def IgnoresMargins (read : List Char → Option β) : Prop :=
  ∀ (before after s : List Char), (∀ c ∈ before, isBlank c = true) → (∀ c ∈ after, isBlank c = true) →
    read (before ++ (s ++ after)) = read s

/-- A label that blanks can stand within, but at neither end. -/
structure IsEdged (label : List Char) : Prop where
  first : ∃ c ∈ label.head?, isBlank c = false
  last : ∃ c ∈ label.getLast?, isBlank c = false

variable {p : Char → Bool} {label before after s : List Char}

lemma isEdged_iff : IsEdged label ↔
    (label.head?.any (fun c => !isBlank c) && label.getLast?.any fun c => !isBlank c) = true := by
  simp only [Bool.and_eq_true, Option.any_eq_true, Bool.not_eq_true']
  exact ⟨fun h => ⟨h.first, h.last⟩, fun h => ⟨h.1, h.2⟩⟩

instance (label : List Char) : Decidable (IsEdged label) := decidable_of_iff _ isEdged_iff.symm

lemma IsEdged.not_infix (hlabel : IsEdged label) (h : ∀ c ∈ s, isBlank c = true) : ¬ label <:+: s := by
  intro hwithin
  obtain ⟨c, hc, hsolid⟩ := hlabel.first
  have hblank := h c (hwithin.subset (List.mem_of_mem_head? hc))
  rw [hsolid] at hblank
  cases hblank

lemma IsEdged.blank_end (hlabel : IsEdged label) (h : label = s ++ after)
    (hafter : ∀ c ∈ after, isBlank c = true) : after = [] := by
  cases hend : after.getLast? with
  | none => exact List.getLast?_eq_none_iff.mp hend
  | some d =>
    obtain ⟨c, hc, hsolid⟩ := hlabel.last
    rw [h, List.getLast?_append, hend] at hc
    cases hc
    rw [hafter d (List.mem_of_getLast? hend)] at hsolid
    cases hsolid

lemma IsEdged.after?_trail (hlabel : IsEdged label) (hafter : ∀ c ∈ after, isBlank c = true) (s : List Char) :
    after? label (s ++ after) = (after? label s).map (· ++ after) := by
  ext rest
  simp only [Option.map_eq_some_iff, after?_eq_some]
  constructor
  · intro h
    rcases List.append_eq_append_iff.mp h with ⟨reach, hreach, hrest⟩ | ⟨t, hs, hrest⟩
    · -- a label that reaches over the end of `s` would end with a blank
      obtain rfl := hlabel.blank_end hreach fun c hc => hafter c (hrest ▸ List.mem_append_left rest hc)
      exact ⟨[], by simp [hreach], by simp [hrest]⟩
    · exact ⟨t, hs, hrest.symm⟩
  · rintro ⟨t, rfl, rfl⟩
    exact List.append_assoc label t after

lemma IsEdged.afterEach_trail (hlabel : IsEdged label) (hafter : ∀ c ∈ after, isBlank c = true)
    (s : List Char) :
    afterEach label (s ++ after) = (afterEach label s).map (· ++ after) := by
  induction s with
  | nil =>
    rw [List.nil_append, afterEach_eq_nil (hlabel.not_infix hafter),
      afterEach_eq_nil (hlabel.not_infix (by simp)),
      List.map_nil]
  | cons c s ih =>
    have hhere := hlabel.after?_trail hafter (c :: s)
    rw [List.cons_append] at hhere
    rw [List.cons_append, afterEach, afterEach, hhere, ih, List.map_append, Option.toList_map]

lemma IsEdged.afterEach_lead (hlabel : IsEdged label) (hbefore : ∀ c ∈ before, isBlank c = true)
    (s : List Char) :
    afterEach label (before ++ s) = afterEach label s := by
  induction before with
  | nil => rfl
  | cons c before ih =>
    obtain ⟨hc, hrest⟩ := List.forall_mem_cons.mp hbefore
    have hnone : after? label (c :: (before ++ s)) = none := by
      refine after?_eq_none fun hprefix => ?_
      obtain ⟨d, hd, hsolid⟩ := hlabel.first
      cases label with
      | nil => cases hd
      | cons l label =>
        obtain ⟨rfl, _⟩ := List.cons_prefix_cons.mp hprefix
        obtain rfl : l = d := by simpa using hd
        rw [hc] at hsolid
        cases hsolid
    rw [List.cons_append, afterEach, hnone, ih hrest]
    rfl

section Readers

variable (hp : ∀ c, isBlank c = true → p c = false) (hafter : ∀ c ∈ after, isBlank c = true)

include hafter

lemma pastBlanks?_bind_trail {f : List Char → Option β} {g : β → β} (hnil : f [] = none)
    (hf : ∀ t, f (t ++ after) = (f t).map g) (s : List Char) :
    (pastBlanks? (s ++ after)).bind f = ((pastBlanks? s).bind f).map g := by
  cases s with
  | nil =>
    cases after with
    | nil => rfl
    | cons c after =>
      obtain ⟨hc, hrest⟩ := List.forall_mem_cons.mp hafter
      simp [pastBlanks?, hc, trimStart_of_blank hrest, hnil]
  | cons c s =>
    cases hc : isBlank c with
    | false => simp [pastBlanks?, hc]
    | true =>
      simp only [List.cons_append, pastBlanks?, hc, if_true, Option.bind_some, trimStart, List.dropWhile_append]
      split
      · -- after blanks alone the trail is passed over with them, and nothing is left for `f` on either side
        next hempty =>
        rw [List.isEmpty_iff.mp hempty, ← trimStart, trimStart_of_blank hafter, hnil, Option.map_none]
      · exact hf _

include hp

lemma run?_trail (s : List Char) :
    run? p (s ++ after) = (run? p s).map fun found => (found.1, found.2 ++ after) := by
  have hstop : ∀ c ∈ after, p c = false := fun c hc => hp c (hafter c hc)
  cases s with
  | nil =>
    cases after with
    | nil => rfl
    | cons c after => simp [run?, hstop c List.mem_cons_self]
  | cons c s =>
    cases hc : p c with
    | false => simp [run?, hc]
    | true => simp [run?, hc, takeWhile_trail hstop, dropWhile_trail hstop]

lemma spacedRun?_trail (s : List Char) :
    spacedRun? p (s ++ after) = (spacedRun? p s).map fun found => (found.1, found.2 ++ after) :=
  pastBlanks?_bind_trail hafter rfl (run?_trail hp hafter) s

end Readers

lemma bracketed?_ignoresTrail : IgnoresTrail bracketed? := by
  intro after s hafter
  have hbracket : IsEdged ['('] := by decide
  have hrun := run?_trail (p := isDigit) (fun _ => isDigit_of_blank) hafter
  rw [bracketed?, hbracket.afterEach_trail hafter, List.filterMap_map, bracketed?]
  simp only [Function.comp_def, hrun, ← List.map_filterMap, List.getLast?_map, Option.map_map]

/-- The name that follows the volume's: blanks, the group's label and a word behind it. -/
def ownerName? (s : List Char) : Option (List Char) :=
  (pastBlanks? s).bind fun s => (after? "VOLUME GROUP:".toList s).bind fun s =>
    (spacedRun? isWord s).map (·.1)

lemma namePair?_eq (s : List Char) : namePair? s =
    (spacedRun? isWord s).bind fun found => (ownerName? found.2).map fun group => (found.1, group) := by
  simp only [namePair?, ownerName?, Option.bind_eq_bind, Option.pure_def, Function.comp_def,
    Option.map_eq_bind, Option.bind_assoc, Option.bind_some]

lemma ownerName?_ignoresTrail : IgnoresTrail ownerName? := by
  intro after s hafter
  have hlabel : IsEdged "VOLUME GROUP:".toList := by decide
  have hword := spacedRun?_trail (p := isWord) (fun _ => isWord_of_blank) hafter
  have hrest (t : List Char) : ((after? "VOLUME GROUP:".toList (t ++ after)).bind fun t =>
      (spacedRun? isWord t).map (·.1)) =
      ((after? "VOLUME GROUP:".toList t).bind fun t => (spacedRun? isWord t).map (·.1)).map id := by
    rw [hlabel.after?_trail hafter, Option.bind_map, Option.map_id]
    simp only [Function.comp_def, hword, Option.map_map, id]
  rw [ownerName?, pastBlanks?_bind_trail hafter rfl hrest, Option.map_id]
  rfl

lemma namePair?_ignoresTrail : IgnoresTrail namePair? := by
  intro after s hafter
  have hword := spacedRun?_trail (p := isWord) (fun _ => isWord_of_blank) hafter
  rw [namePair?_eq, namePair?_eq, hword, Option.bind_map]
  simp only [Function.comp_def, ownerName?_ignoresTrail after _ hafter]

lemma partitionFigure?_ignoresTrail : IgnoresTrail partitionFigure? := by
  intro after s hafter
  have hlabel : IsEdged "PPs".toList := by decide
  have hdigits := spacedRun?_trail (p := isDigit) (fun _ => isDigit_of_blank) hafter
  simp only [partitionFigure?, Option.bind_eq_bind, hdigits, Option.bind_map, Function.comp_def,
    hlabel.afterEach_trail hafter, List.head?_map]

section Lines

variable (hlabel : IsEdged label) (hbefore : ∀ c ∈ before, isBlank c = true)
  (hafter : ∀ c ∈ after, isBlank c = true)

include hlabel hbefore hafter

lemma afterEach_margins (s : List Char) :
    afterEach label (before ++ (s ++ after)) = (afterEach label s).map (· ++ after) := by
  rw [hlabel.afterEach_lead hbefore, hlabel.afterEach_trail hafter]

lemma findSome?_margins {read : List Char → Option β} (h : IgnoresTrail read) (s : List Char) :
    (afterEach label (before ++ (s ++ after))).findSome? read = (afterEach label s).findSome? read := by
  rw [afterEach_margins hlabel hbefore hafter, List.findSome?_map]
  simp only [Function.comp_def, h after _ hafter]

lemma labelled?_margins (hp : ∀ c, isBlank c = true → p c = false) (s : List Char) :
    labelled? p label (before ++ (s ++ after)) = labelled? p label s := by
  refine findSome?_margins hlabel hbefore hafter (fun after t hafter => ?_) s
  rw [spacedRun?_trail hp hafter, Option.map_map]
  rfl

lemma labelledBracket?_margins (s : List Char) :
    labelledBracket? label (before ++ (s ++ after)) = labelledBracket? label s := by
  rw [labelledBracket?, afterEach_margins hlabel hbefore hafter, List.head?_map, Option.bind_map]
  simp only [Function.comp_def, bracketed?_ignoresTrail after _ hafter]
  rfl

end Lines

lemma groupEntry_ignoresMargins : IgnoresMargins GroupEntry.ofLine? := by
  intro before after s hbefore hafter
  have hname : IsEdged "VOLUME GROUP:".toList := by decide
  have htotal : IsEdged "TOTAL PP".toList := by decide
  have hunit : IsEdged "PP SIZE:".toList := by decide
  have hfree : IsEdged "FREE PP".toList := by decide
  rw [GroupEntry.ofLine?, labelled?_margins hname hbefore hafter fun _ => isWord_of_blank,
    labelledBracket?_margins htotal hbefore hafter,
    labelled?_margins hunit hbefore hafter fun _ => isDigit_of_blank,
    labelledBracket?_margins hfree hbefore hafter, GroupEntry.ofLine?]

lemma volumeEntry_ignoresMargins : IgnoresMargins VolumeEntry.ofLine? := by
  intro before after s hbefore hafter
  have hnames : IsEdged "LOGICAL VOLUME:".toList := by decide
  have hpartitions : IsEdged "LPs:".toList := by decide
  have hunit : IsEdged "PP SIZE:".toList := by decide
  have hpolicy : IsEdged "INTER-POLICY:".toList := by decide
  rw [VolumeEntry.ofLine?, findSome?_margins hnames hbefore hafter namePair?_ignoresTrail,
    findSome?_margins hpartitions hbefore hafter partitionFigure?_ignoresTrail,
    labelled?_margins hunit hbefore hafter fun _ => isDigit_of_blank,
    labelled?_margins hpolicy hbefore hafter fun _ => isWord_of_blank, VolumeEntry.ofLine?]

end LogicalVolumes
