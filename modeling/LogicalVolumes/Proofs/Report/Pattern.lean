import LogicalVolumes.Proofs.Report.Label
import Mathlib.Data.List.Infix

/-! Patterns for a line, and how they are searched for: at the leftmost place first, and there with as many
characters to each run as can be given to it without the rest of the pattern failing. -/

namespace LogicalVolumes.Report

open LogicalVolumes.Text

inductive Pattern
  | literal (text : List Char)
  /-- One character of the kind or more, as many as possible. -/
  | oneOrMore (kind : Char → Bool)
  /-- Any number of characters of the kind, as many as possible. -/
  | zeroOrMore (kind : Char → Bool)
  /-- What is matched here is captured. -/
  | group (inner : Pattern)
  | seq (first second : Pattern)

/-- One way to match a pattern at the start of a text. -/
structure Way where
  taken : List Char
  captured : List (List Char)
  rest : List Char

/-- The ways to divide a text behind characters of the kind, the latest place first. -/
def divisions (kind : Char → Bool) : List Char → List (List Char × List Char)
  | [] => [([], [])]
  | c :: s =>
    if kind c then (divisions kind s).map (fun d => (c :: d.1, d.2)) ++ [([], c :: s)] else [([], c :: s)]

namespace Pattern

/-- All ways to match the pattern at the start of a text, in the order in which they are tried. -/
def ways : Pattern → List Char → List Way
  | literal text, s => if text <+: s then [⟨text, [], s.drop text.length⟩] else []
  | oneOrMore kind, s => ((divisions kind s).filter fun d => !d.1.isEmpty).map fun d => ⟨d.1, [], d.2⟩
  | zeroOrMore kind, s => (divisions kind s).map fun d => ⟨d.1, [], d.2⟩
  | group inner, s => (inner.ways s).map fun way => { way with captured := way.taken :: way.captured }
  | seq first second, s => (first.ways s).flatMap fun way => (second.ways way.rest).map fun next =>
      ⟨way.taken ++ next.taken, way.captured ++ next.captured, next.rest⟩

/-- What the first of the ways captures. -/
def captures? (pattern : Pattern) (s : List Char) : Option (List (List Char)) :=
  (pattern.ways s).head?.map (·.captured)

def search (pattern : Pattern) (line : List Char) : Option (List (List Char)) :=
  line.tails.findSome? pattern.captures?

end Pattern

/-- A run does not have to give characters back: what fails behind the whole of it fails behind each part. -/
def Settled {β : Type} (kind : Char → Bool) (next : List Char → List Char → Option β) : Prop :=
  ∀ taken left rest, (∀ c ∈ left, kind c = true) → next (taken ++ left) rest = none →
    next taken (left ++ rest) = none

section

variable {β : Type} {kind : Char → Bool} {label s line : List Char} {pattern : Pattern}

lemma findSome?_divisions {next : List Char → List Char → Option β} (h : Settled kind next)
    (taken s : List Char) :
    (divisions kind s).findSome? (fun d => next (taken ++ d.1) d.2) =
      next (taken ++ s.takeWhile kind) (s.dropWhile kind) := by
  induction s generalizing taken with
  | nil => cases hnext : next taken [] <;> simp [divisions, hnext]
  | cons c s ih =>
    cases hc : kind c with
    | false => cases hnext : next taken (c :: s) <;> simp [divisions, hc, hnext]
    | true =>
      have hlonger := ih (taken ++ [c])
      simp only [List.append_assoc, List.singleton_append] at hlonger
      have hall : ∀ d ∈ c :: s.takeWhile kind, kind d = true :=
        List.forall_mem_cons.mpr ⟨hc, List.all_eq_true.mp List.all_takeWhile⟩
      have hback := h taken (c :: s.takeWhile kind) (s.dropWhile kind) hall
      rw [List.cons_append, List.takeWhile_append_dropWhile] at hback
      rw [divisions, if_pos hc, List.findSome?_append, List.findSome?_map, List.takeWhile_cons_of_pos hc,
        List.dropWhile_cons_of_pos hc]
      simp only [Function.comp_def, hlonger, List.findSome?_singleton, List.append_nil]
      cases hlong : next (taken ++ c :: s.takeWhile kind) (s.dropWhile kind) with
      | none => simp [hback hlong]
      | some b => simp

/-- A run takes all that it can, if it is settled. -/
lemma findSome?_run {next : List Char → List Char → Option β} (h : Settled kind next) (s : List Char) :
    ((divisions kind s).filter fun d => !d.1.isEmpty).findSome? (fun d => next d.1 d.2) =
      (run? kind s).bind fun run => next run.1 run.2 := by
  cases s with
  | nil => simp [divisions, run?]
  | cons c s =>
    cases hc : kind c with
    | false => simp [divisions, run?, hc]
    | true =>
      have hrun := findSome?_divisions h [c] s
      simp only [List.singleton_append] at hrun
      simp [divisions, run?, hc, List.filter_map, List.findSome?_map, Function.comp_def, hrun]

lemma settled_of_refused {f : List Char → Option β} (h : ∀ c s, kind c = true → f (c :: s) = none) :
    Settled kind fun _ rest => f rest := by
  intro _ left rest hleft hnone
  cases left with
  | nil => exact hnone
  | cons c left => exact h c (left ++ rest) (hleft c List.mem_cons_self)

lemma divisions_of_all (h : ∀ c ∈ s, kind c = true) : (divisions kind s).map (·.2) = s.tails.reverse := by
  induction s with
  | nil => simp [divisions]
  | cons c s ih =>
    obtain ⟨hc, hs⟩ := List.forall_mem_cons.mp h
    simp [divisions, hc, List.map_map, Function.comp_def, ih hs]

lemma filterMap_tails (next : List Char → Option β) (label line : List Char) :
    line.tails.filterMap (fun s => (after? label s).bind next) = (afterEach label line).filterMap next := by
  induction line with
  | nil =>
    rw [List.tails, afterEach]
    cases hafter : after? label [] with
    | none => simp [hafter]
    | some s => cases hnext : next s <;> simp [hafter, hnext]
  | cons c line ih =>
    rw [List.tails_cons, List.filterMap_cons, ih, afterEach, List.filterMap_append]
    cases hafter : after? label (c :: line) with
    | none => simp
    | some s => cases hnext : next s <;> simp [hnext]

end

namespace Pattern

variable {kind : Char → Bool} {label s line : List Char} {next pattern : Pattern}

lemma captures?_seq (first second : Pattern) (s : List Char) : (first.seq second).captures? s =
    (first.ways s).findSome? fun way => (second.captures? way.rest).map (way.captured ++ ·) := by
  simp only [captures?, ways, List.head?_flatMap, List.head?_map, List.map_findSome?, Option.map_map,
    Function.comp_def]

lemma captures?_literal_seq (label : List Char) (next : Pattern) (s : List Char) :
    ((literal label).seq next).captures? s = (after? label s).bind next.captures? := by
  rw [captures?_seq, ways]
  split
  · next hprefix =>
    obtain ⟨t, rfl⟩ := hprefix
    simp [after?_append]
  · next hprefix => simp [after?_eq_none hprefix]

lemma search_literal_seq (label : List Char) (next : Pattern) (line : List Char) :
    ((literal label).seq next).search line = (afterEach label line).findSome? next.captures? := by
  rw [search, ← List.head?_filterMap, ← List.head?_filterMap, ← filterMap_tails]
  simp only [captures?_literal_seq]

lemma captures?_literal (label s : List Char) :
    (literal label).captures? s = (after? label s).bind fun _ => some [] := by
  rw [captures?, ways]
  split
  · next hprefix =>
    obtain ⟨t, rfl⟩ := hprefix
    simp [after?_append]
  · next hprefix => simp [after?_eq_none hprefix]

/-- A run of one kind before a pattern that no character of that kind can start. -/
lemma captures?_run_seq (h : ∀ c s, kind c = true → next.captures? (c :: s) = none) (s : List Char) :
    ((oneOrMore kind).seq next).captures? s = (run? kind s).bind fun run => next.captures? run.2 := by
  rw [captures?_seq, ways, List.findSome?_map, ← findSome?_run (settled_of_refused h)]
  simp only [Function.comp_def, List.nil_append, Option.map_id']

lemma captures?_group_seq (h : Settled kind fun _ rest => next.captures? rest) (s : List Char) :
    ((group (oneOrMore kind)).seq next).captures? s =
      (run? kind s).bind fun run => (next.captures? run.2).map (run.1 :: ·) := by
  have hsettled : Settled kind fun taken rest => (next.captures? rest).map (taken :: ·) := by
    intro taken left rest hleft hnone
    rw [Option.map_eq_none_iff] at hnone ⊢
    exact h taken left rest hleft hnone
  rw [captures?_seq, ways, ways, List.map_map, List.findSome?_map, ← findSome?_run hsettled]
  simp only [Function.comp_def, List.singleton_append]

lemma captures?_group (kind : Char → Bool) (s : List Char) :
    (group (oneOrMore kind)).captures? s = (run? kind s).map fun run => [run.1] := by
  have hsettled : Settled kind fun taken (_ : List Char) => some [taken] := by
    intro _ _ _ _ hnone
    cases hnone
  have hrun := findSome?_run hsettled s
  rw [Option.map_eq_bind, Function.comp_def, ← hrun, captures?, ways, ways, List.map_map, List.head?_map,
    Option.map_map]
  cases (divisions kind s).filter fun d => !d.1.isEmpty <;> rfl

lemma captures?_any_cons {c : Char} (hc : kind c = true) (next : Pattern) (s : List Char) :
    ((zeroOrMore kind).seq next).captures? (c :: s) =
      (((zeroOrMore kind).seq next).captures? s).or (next.captures? (c :: s)) := by
  simp [captures?_seq, ways, divisions, hc, List.findSome?_append, List.findSome?_map, Function.comp_def]

/-- Nothing of a run is needed behind it, if none of its characters can start what has to be found there. -/
lemma settled_any {digit : Char → Bool} (hkind : ∀ c, digit c = true → kind c = true)
    (h : ∀ c s, digit c = true → next.captures? (c :: s) = none) :
    Settled digit fun _ rest => ((zeroOrMore kind).seq next).captures? rest := by
  intro _ left rest hleft hnone
  change ((zeroOrMore kind).seq next).captures? (left ++ rest) = none
  induction left with
  | nil => exact hnone
  | cons c left ih =>
    obtain ⟨hc, hleft⟩ := List.forall_mem_cons.mp hleft
    rw [List.cons_append, captures?_any_cons (hkind c hc), ih hleft hnone, h c _ hc]
    rfl

/-- Characters without limit are given back one by one, so that the last place counts where the rest is
matched. -/
lemma captures?_any_seq (h : ∀ c ∈ s, kind c = true) (next : Pattern) :
    ((zeroOrMore kind).seq next).captures? s = (s.tails.filterMap next.captures?).getLast? := by
  rw [List.getLast?_filterMap, ← divisions_of_all h, List.findSome?_map, captures?_seq, ways, List.findSome?_map]
  simp only [Function.comp_def, List.nil_append, Option.map_id']

lemma captures?_any_literal_seq (h : ∀ c ∈ s, kind c = true) (label : List Char) (next : Pattern) :
    ((zeroOrMore kind).seq ((literal label).seq next)).captures? s =
      ((afterEach label s).filterMap next.captures?).getLast? := by
  simp only [captures?_any_seq h, captures?_literal_seq, filterMap_tails]

lemma captures?_any_literal (h : ∀ c ∈ s, kind c = true) (label : List Char) :
    ((zeroOrMore kind).seq (literal label)).captures? s = (afterEach label s).head?.map fun _ => [] := by
  simp only [captures?_any_seq h, captures?_literal, filterMap_tails, List.filterMap_eq_map', List.getLast?_map]
  cases afterEach label s with
  | nil => rfl
  | cons t others => rw [List.getLast?_cons, List.head?_cons, Option.map_some, Option.map_some]

end Pattern

end LogicalVolumes.Report
