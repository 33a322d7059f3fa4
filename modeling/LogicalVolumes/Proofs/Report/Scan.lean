import Mathlib.Tactic.Lemma

/-! A field of a record into which entries are noted one after the other: the last entry that says something
about the field counts. -/

namespace LogicalVolumes.Report

lemma foldl_last {ρ ε β : Type} (note : ρ → ε → ρ) (get : ρ → β) (says? : ε → Option β)
    (hnote : ∀ r e, get (note r e) = (says? e).getD (get r)) (entries : List ε) (record : ρ) :
    get (entries.foldl note record) = (entries.filterMap says?).getLast?.getD (get record) := by
  induction entries generalizing record with
  | nil => rfl
  | cons e entries ih =>
    rw [List.foldl_cons, ih, hnote]
    cases he : says? e with
    | none => rw [List.filterMap_cons_none he, Option.getD_none]
    | some value => rw [List.filterMap_cons_some he, List.getLast?_cons, Option.getD_some, Option.getD_some]

lemma getLast?_of_all {β : Type} {l : List β} {value : β} (hmem : value ∈ l) (hall : ∀ x ∈ l, x = value) :
    l.getLast? = some value := by
  have hne := List.ne_nil_of_mem hmem
  rw [List.getLast?_eq_some_getLast hne, hall _ (List.getLast_mem hne)]

/-- All that is said of the field in `entries`, of which only the members count, is one value. -/
lemma said_last {ε β : Type} {entries said : List ε} (hmem : ∀ e, e ∈ entries ↔ e ∈ said)
    (says? : ε → Option β) (value blank : β) (hsaid : ∃ e ∈ said, says? e = some value)
    (honly : ∀ e ∈ said, ∀ x, says? e = some x → x = value) :
    (entries.filterMap says?).getLast?.getD blank = value := by
  obtain ⟨e, he, hvalue⟩ := hsaid
  rw [getLast?_of_all (List.mem_filterMap.mpr ⟨e, (hmem e).mpr he, hvalue⟩), Option.getD_some]
  intro x hx
  obtain ⟨d, hd, hx⟩ := List.mem_filterMap.mp hx
  exact honly d ((hmem d).mp hd) x hx

lemma getLast?_getD_eq_none {β : Type} {l : List (Option β)} (h : ∀ x ∈ l, x ≠ none) :
    l.getLast?.getD none = none ↔ l = [] := by
  cases hlast : l.getLast? with
  | none => simp [List.getLast?_eq_none_iff.mp hlast]
  | some x =>
    have hmem := List.mem_of_getLast? hlast
    simpa [List.ne_nil_of_mem hmem] using h x hmem

end LogicalVolumes.Report
