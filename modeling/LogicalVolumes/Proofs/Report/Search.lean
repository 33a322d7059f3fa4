import LogicalVolumes.Proofs.Report.Margin
import LogicalVolumes.Proofs.Report.Pattern
import LogicalVolumes.Proofs.Report.Rule

/-! The patterns of the rules. A search for one of them finds on a line what the readers of the reports find. -/

namespace LogicalVolumes

open Report Text

namespace Report

/-- Any character but the end of a line. -/
def inLine (c : Char) : Bool := c != '\n'

namespace Pattern

/-- A label, blanks, and a captured run. -/
def labelled (kind : Char → Bool) (label : List Char) : Pattern :=
  .seq (.literal label) (.seq (.oneOrMore isBlank) (.group (.oneOrMore kind)))

/-- A label, and behind it, near or far, captured digits in a bracket. -/
def bracketed (label : List Char) : Pattern :=
  .seq (.literal label) (.seq (.zeroOrMore inLine) (.seq (.literal ['(']) (.group (.oneOrMore isDigit))))

def names : Pattern :=
  .seq (.literal "LOGICAL VOLUME:".toList) (.seq (.oneOrMore isBlank) (.seq (.group (.oneOrMore isWord))
    (.seq (.oneOrMore isBlank) (labelled isWord "VOLUME GROUP:".toList))))

def partitions : Pattern :=
  .seq (.literal "LPs:".toList) (.seq (.oneOrMore isBlank) (.seq (.group (.oneOrMore isDigit))
    (.seq (.zeroOrMore inLine) (.literal "PPs".toList))))

end Pattern

end Report

variable {kind : Char → Bool} {label line s : List Char}

lemma pastBlanks?_eq_run? (s : List Char) : pastBlanks? s = (run? isBlank s).map (·.2) := by
  cases s with
  | nil => rfl
  | cons c s => cases hc : isBlank c <;> simp [pastBlanks?, run?, hc, trimStart]

lemma run?_refused (hkind : ∀ c, isBlank c = true → kind c = false) {c : Char} (hc : isBlank c = true)
    (s : List Char) : run? kind (c :: s) = none := by
  rw [run?, hkind c hc, if_neg Bool.false_ne_true]

lemma captures?_blanks_seq {next : Pattern} (h : ∀ c s, isBlank c = true → next.captures? (c :: s) = none)
    (s : List Char) :
    (Pattern.seq (.oneOrMore isBlank) next).captures? s = (pastBlanks? s).bind next.captures? := by
  rw [Pattern.captures?_run_seq h, pastBlanks?_eq_run?, Option.bind_map]
  rfl

lemma captures?_spaced (hkind : ∀ c, isBlank c = true → kind c = false) :
    (Pattern.seq (.oneOrMore isBlank) (.group (.oneOrMore kind))).captures? =
      fun s => (spacedRun? kind s).map fun run => [run.1] := by
  funext s
  have hrun : (Pattern.group (.oneOrMore kind)).captures? = fun s => (run? kind s).map fun run => [run.1] :=
    funext (Pattern.captures?_group kind)
  rw [captures?_blanks_seq, hrun, spacedRun?, Option.map_bind]
  · rfl
  · intro c s hc
    simp only [hrun, run?_refused hkind hc, Option.map_none]

lemma search_labelled (hkind : ∀ c, isBlank c = true → kind c = false) (label line : List Char) :
    (Pattern.labelled kind label).search line = (labelled? kind label line).map fun run => [run] := by
  rw [Pattern.labelled, Pattern.search_literal_seq, captures?_spaced hkind, labelled?, List.map_findSome?]
  simp only [Function.comp_def, Option.map_map]

/-- The first label has all brackets behind it that any other label has. -/
lemma labelledBracket?_eq (label line : List Char) :
    labelledBracket? label line = (afterEach label line).findSome? bracketed? := by
  rw [labelledBracket?]
  cases hplaces : afterEach label line with
  | nil => rfl
  | cons s others =>
    rw [List.head?_cons, Option.bind_some, List.findSome?_cons]
    cases hs : bracketed? s with
    | some digits => rfl
    | none =>
      symm
      refine List.findSome?_eq_none_iff.mpr fun t ht => ?_
      have hhead : (afterEach label line).head? = some s := by rw [hplaces, List.head?_cons]
      have hsuffix := suffix_of_head? hhead (hplaces ▸ List.mem_cons_of_mem s ht)
      exact bracketed?_eq_none_iff.mpr fun hopens => bracketed?_eq_none_iff.mp hs (hopens.of_suffix hsuffix)

lemma inLine_of_line (hline : '\n' ∉ line) : ∀ c ∈ line, inLine c = true :=
  fun _ hc => bne_iff_ne.mpr fun he => hline (he ▸ hc)

lemma findSome?_congr {α β : Type} {f g : α → Option β} {l : List α} (h : ∀ a ∈ l, f a = g a) :
    l.findSome? f = l.findSome? g := by
  induction l with
  | nil => rfl
  | cons a l ih =>
    obtain ⟨ha, hl⟩ := List.forall_mem_cons.mp h
    rw [List.findSome?_cons, List.findSome?_cons, ha, ih hl]

lemma search_bracketed (label : List Char) (hline : '\n' ∉ line) :
    (Pattern.bracketed label).search line = (labelledBracket? label line).map fun digits => [digits] := by
  have hrun : (Pattern.group (.oneOrMore isDigit)).captures? =
      fun s => (run? isDigit s).map fun run => [run.1] := funext (Pattern.captures?_group isDigit)
  rw [Pattern.bracketed, Pattern.search_literal_seq, labelledBracket?_eq, List.map_findSome?]
  refine findSome?_congr fun s hs => ?_
  obtain ⟨before, rfl⟩ := mem_afterEach.mp hs
  have hall : ∀ c ∈ s, inLine c = true := inLine_of_line fun h => hline (List.mem_append_right _ h)
  rw [Pattern.captures?_any_literal_seq hall, hrun, ← List.map_filterMap, List.getLast?_map, Function.comp_apply,
    bracketed?, Option.map_map]
  rfl

lemma captures?_owner : (Pattern.seq (.oneOrMore isBlank) (.labelled isWord "VOLUME GROUP:".toList)).captures? =
    fun s => (ownerName? s).map fun group => [group] := by
  have hlabel : (Pattern.labelled isWord "VOLUME GROUP:".toList).captures? = fun s =>
      (after? "VOLUME GROUP:".toList s).bind fun t => (spacedRun? isWord t).map fun run => [run.1] := by
    funext s
    rw [Pattern.labelled, Pattern.captures?_literal_seq, captures?_spaced fun _ => isWord_of_blank]
  funext s
  rw [captures?_blanks_seq, hlabel, ownerName?]
  · simp only [Option.map_bind, Option.map_map, Function.comp_def]
  · intro c s hc
    have hnone : after? "VOLUME GROUP:".toList (c :: s) = none := by
      refine after?_eq_none fun hprefix => ?_
      obtain ⟨rfl, _⟩ := List.cons_prefix_cons.mp hprefix
      exact absurd hc (by decide +kernel)
    simp only [hlabel, hnone, Option.bind_none]

lemma search_names (line : List Char) : Pattern.names.search line =
    ((afterEach "LOGICAL VOLUME:".toList line).findSome? namePair?).map fun pair => [pair.1, pair.2] := by
  have hsettled : Settled isWord fun _ rest =>
      (Pattern.seq (.oneOrMore isBlank) (.labelled isWord "VOLUME GROUP:".toList)).captures? rest := by
    refine settled_of_refused fun c s hc => ?_
    simp only [captures?_owner, ownerName?, pastBlanks?, isBlank_of_word hc, Bool.false_eq_true, if_false,
      Option.bind_none, Option.map_none]
  rw [Pattern.names, Pattern.search_literal_seq, List.map_findSome?]
  refine findSome?_congr fun s _ => ?_
  rw [captures?_blanks_seq, Function.comp_apply, namePair?_eq, spacedRun?, Option.bind_assoc, Option.map_bind]
  · refine Option.bind_congr fun t _ => ?_
    rw [Pattern.captures?_group_seq hsettled, captures?_owner]
    simp only [Function.comp_def, Option.map_bind, Option.map_map]
  · intro c s hc
    rw [Pattern.captures?_group_seq hsettled, run?_refused (fun _ => isWord_of_blank) hc, Option.bind_none]

lemma search_partitions (hline : '\n' ∉ line) : Pattern.partitions.search line =
    ((afterEach "LPs:".toList line).findSome? partitionFigure?).map fun digits => [digits] := by
  have hsettled : Settled isDigit fun _ rest =>
      (Pattern.seq (.zeroOrMore inLine) (.literal "PPs".toList)).captures? rest := by
    refine Pattern.settled_any (fun c hc => bne_iff_ne.mpr ?_) fun c s hc => ?_
    · rintro rfl
      exact absurd hc (by decide +kernel)
    · have hnone : after? "PPs".toList (c :: s) = none := by
        refine after?_eq_none fun hprefix => ?_
        obtain ⟨rfl, _⟩ := List.cons_prefix_cons.mp hprefix
        exact absurd hc (by decide +kernel)
      rw [Pattern.captures?_literal, hnone, Option.bind_none]
  rw [Pattern.partitions, Pattern.search_literal_seq, List.map_findSome?]
  refine findSome?_congr fun s hs => ?_
  obtain ⟨before, rfl⟩ := mem_afterEach.mp hs
  rw [captures?_blanks_seq, Function.comp_apply, partitionFigure?, spacedRun?]
  · simp only [Option.bind_eq_bind, Option.bind_assoc, Option.map_bind, Option.pure_def]
    refine Option.bind_congr fun t ht => ?_
    rw [Pattern.captures?_group_seq hsettled, Function.comp_apply, Option.map_bind]
    refine Option.bind_congr fun run hrun => ?_
    obtain ⟨gap, _, rfl⟩ := pastBlanks?_eq_some ht
    obtain ⟨rfl, _⟩ := run?_eq_some hrun
    have hall : ∀ c ∈ run.2, inLine c = true := inLine_of_line fun h => hline (by simp [h])
    rw [Pattern.captures?_any_literal hall, Function.comp_apply]
    cases (afterEach "PPs".toList run.2).head? <;> rfl
  · intro c s hc
    rw [Pattern.captures?_group_seq hsettled, run?_refused digits_blank hc, Option.bind_none]

end LogicalVolumes
