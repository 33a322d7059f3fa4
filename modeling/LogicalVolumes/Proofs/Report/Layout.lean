import LogicalVolumes.Proofs.Text.Words

/-! A report as lines in any order, those that count among others that say nothing. -/

namespace LogicalVolumes

open Text

/-- A text of these lines. A line ends with a line feed, which a carriage return may precede; the last one may
be left open. -/
inductive IsText : List (List Char) → List Char → Prop
  | nil : IsText [] []
  | last {line : List Char} : line ≠ [] → '\n' ∉ line → IsText [line] line
  | feed {line text : List Char} {more : List (List Char)} : '\n' ∉ line → line.getLast? ≠ some '\r' →
      IsText more text → IsText (line :: more) (line ++ '\n' :: text)
  | returnFeed {line text : List Char} {more : List (List Char)} : '\n' ∉ line → IsText more text →
      IsText (line :: more) (line ++ '\r' :: '\n' :: text)

/-- The rows stand in the report, in any order, among other lines that are silent. -/
def Shows (silent : List Char → Prop) (rows : List (List Char)) (report : String) : Prop :=
  ∃ all others, IsText all report.toList ∧ all.Perm (rows ++ others) ∧ ∀ line ∈ others, silent line

variable {ε : Type} {all rows : List (List Char)} {text : List Char} {report : String}

lemma IsText.lines_eq (h : IsText all text) : lines text = all := by
  induction h with
  | nil => rfl
  | @last line hne hfeed =>
    have hpieces : pieces (· == '\n') line = [line] :=
      pieces_of_none fun c hc => beq_false_of_ne (ne_of_mem_of_not_mem hc hfeed)
    simp [lines, hpieces, endedLines, hne]
  | @feed line text more hfeed hreturn _ ih =>
    rw [lines_append_cons fun c hc => ne_of_mem_of_not_mem hc hfeed, dropReturn_of_last hreturn, ih]
  | @returnFeed line text more hfeed _ ih =>
    have hline : ∀ c ∈ line ++ ['\r'], c ≠ '\n' := by
      intro c hc
      rcases List.mem_append.mp hc with hc | hc
      · exact ne_of_mem_of_not_mem hc hfeed
      · obtain rfl := List.mem_singleton.mp hc
        decide
    have hkept : dropReturn (line ++ ['\r']) = line := by
      rw [dropReturn, if_pos List.getLast?_concat, List.dropLast_concat]
    have hlines := lines_append_cons hline text
    rw [List.append_assoc, List.singleton_append] at hlines
    rw [hlines, hkept, ih]

/-- The lines are given with what ends them. -/
lemma IsText.of_ended {ended : List (List Char × List Char)}
    (h : ∀ l ∈ ended, '\n' ∉ l.1 ∧ (l.2 = ['\r', '\n'] ∨ l.2 = ['\n'] ∧ l.1.getLast? ≠ some '\r')) :
    IsText (ended.map Prod.fst) (ended.flatMap fun l => l.1 ++ l.2) := by
  induction ended with
  | nil => exact .nil
  | cons l ended ih =>
    obtain ⟨line, ending⟩ := l
    have hmore := ih fun m hm => h m (List.mem_cons_of_mem _ hm)
    obtain ⟨hfeed, rfl | ⟨rfl, hreturn⟩⟩ := h (line, ending) List.mem_cons_self
    · simpa using hmore.returnFeed hfeed
    · simpa using hmore.feed hfeed hreturn

/-- What the lines of the report say is what its rows say. -/
lemma Shows.entries {silent : List Char → Prop} (h : Shows silent rows report) (ofLine? : List Char → Option ε)
    (hsilent : ∀ line, silent line → ofLine? line = none) :
    ((lines report.toList).filterMap ofLine?).Perm (rows.filterMap ofLine?) := by
  obtain ⟨all, others, htext, hperm, hothers⟩ := h
  have hnone : others.filterMap ofLine? = [] :=
    List.filterMap_eq_nil_iff.mpr fun line hline => hsilent line (hothers line hline)
  have hentries := hperm.filterMap ofLine?
  rw [List.filterMap_append, hnone, List.append_nil] at hentries
  rwa [htext.lines_eq]

end LogicalVolumes
