import LogicalVolumes.Decode.Action
import LogicalVolumes.Proofs.Json.RoundTrip
import Mathlib.Data.List.Nodup

/-! Plain values decode from their encodings, and records from objects with their members in any order. -/

namespace LogicalVolumes.Json

variable {α : Type} {members other : Members} {shape : RecordShape} {name : String} {value : Json}

section Values

@[simp] lemma toText_text (s : String) : toText (.text s) = .ok s := rfl

@[simp] lemma toOptionalText_optional (s : Option String) : toOptionalText (optional .text s) = .ok s := by
  cases s <;> rfl

@[simp] lemma toWord_word (n : UInt64) : toWord (word n) = .ok n := by
  have hfits : Number.word? n.toNat = some n := by
    rw [Number.word?, if_pos n.toNat_lt, UInt64.ofNat_toNat]
  have hnat : (n.toNat : Int).toNat? = some n.toNat := rfl
  simp [toWord, word, hnat, hfits]

@[simp] lemma toByte_byte (n : UInt8) : toByte (byte n) = .ok n := by
  have hfits : Number.byte? n.toNat = some n := by
    rw [Number.byte?, if_pos n.toNat_lt, UInt8.ofNat_toNat]
  have hnat : (n.toNat : Int).toNat? = some n.toNat := rfl
  simp [toByte, byte, hnat, hfits]

@[simp] lemma toTexts_texts (values : List String) : toTexts (texts values) = .ok values := by
  induction values with
  | nil => rfl
  | cons value values ih =>
    have hrest : (values.map text).mapM toText = .ok values := ih
    simp [toTexts, texts, hrest]
    rfl

lemma exact_word (n : UInt64) : (word n).Exact := by
  have hfits := n.toNat_lt
  exact .integer (by omega) (by omega)

lemma exact_byte (n : UInt8) : (byte n).Exact := by
  have hfits := n.toNat_lt
  exact .integer (by omega) (by omega)

lemma exact_texts (values : List String) : (texts values).Exact := by
  refine .list fun item hitem => ?_
  obtain ⟨s, _, rfl⟩ := List.mem_map.mp hitem
  exact .text s

lemma exact_optional_text (s : Option String) : (optional .text s).Exact := by
  cases s with
  | none => exact .null
  | some s => exact .text s

@[simp] lemma ordered_texts (values : List String) : (texts values).ordered = texts values := by
  rw [texts, ordered, orderedItems_eq, List.map_map]
  rfl

@[simp] lemma ordered_optional_text (s : Option String) : (optional .text s).ordered = optional .text s := by
  cases s <;> rfl

end Values

section Order

def orderedMember (m : String × Json) : String × Json := (m.1, m.2.ordered)

lemma insertMember_perm (hname : name ∉ members.map Prod.fst) (value : Json) :
    (insertMember name value members).Perm ((name, value) :: members) := by
  induction members with
  | nil => exact .refl _
  | cons m members ih =>
    obtain ⟨n, v⟩ := m
    simp only [List.map_cons, List.mem_cons, not_or] at hname
    rw [insertMember, if_neg hname.1]
    split
    · exact .refl _
    · exact ((ih hname.2).cons (n, v)).trans (.swap _ _ _)

lemma orderedMembers_perm (hnodup : (members.map Prod.fst ++ other.map Prod.fst).Nodup) :
    (orderedMembers other members).Perm (members.map orderedMember ++ other) := by
  induction members generalizing other with
  | nil => exact .refl _
  | cons m members ih =>
    obtain ⟨n, v⟩ := m
    simp only [List.map_cons, List.cons_append, List.nodup_cons, List.mem_append, not_or] at hnodup
    obtain ⟨⟨hmembers, hother⟩, hrest⟩ := hnodup
    have hinsert := insertMember_perm hother v.ordered
    have hnames : (members.map Prod.fst ++ (insertMember n v.ordered other).map Prod.fst).Nodup := by
      have hsplit := ((hinsert.map Prod.fst).append_left (members.map Prod.fst)).trans List.perm_middle
      rw [hsplit.nodup_iff]
      exact List.nodup_cons.mpr ⟨by simp [hmembers, hother], hrest⟩
    exact (ih hnames).trans ((hinsert.append_left _).trans List.perm_middle)

/-- An object with distinct names keeps its members when they are put in order. -/
lemma ordered_object (hnodup : (members.map Prod.fst).Nodup) :
    ∃ other : Members, other.Perm (members.map orderedMember) ∧ (object members).ordered = .object other := by
  have hempty : (members.map Prod.fst ++ List.map Prod.fst ([] : Members)).Nodup := by simpa using hnodup
  exact ⟨orderedMembers [] members, by simpa using orderedMembers_perm hempty, rfl⟩

lemma lookup_of_mem (hnodup : (members.map Prod.fst).Nodup) (hmem : (name, value) ∈ members) :
    members.lookup name = some value := by
  induction members with
  | nil => cases hmem
  | cons m members ih =>
    obtain ⟨n, v⟩ := m
    simp only [List.map_cons, List.nodup_cons] at hnodup
    rcases List.mem_cons.mp hmem with heq | htail
    · obtain ⟨rfl, rfl⟩ := Prod.mk.inj heq
      simp
    · have hne : name ≠ n := by
        rintro rfl
        exact hnodup.1 (List.mem_map_of_mem htail)
      rw [List.lookup_cons, beq_false_of_ne hne]
      exact ih hnodup.2 htail

lemma lookup_perm (hperm : other.Perm members) (hnodup : (members.map Prod.fst).Nodup) :
    other.lookup name = members.lookup name := by
  have hnodup' : (other.map Prod.fst).Nodup := (hperm.map Prod.fst).nodup_iff.mpr hnodup
  cases h : members.lookup name with
  | some value =>
    have hmem : (name, value) ∈ members := by
      obtain ⟨before, after, heq, _⟩ := List.lookup_eq_some_iff.mp h
      simp [heq]
    exact lookup_of_mem hnodup' (hperm.mem_iff.mpr hmem)
  | none =>
    rw [List.lookup_eq_none_iff] at h ⊢
    exact fun m hm => h m (hperm.mem_iff.mp hm)

end Order

section Records

lemma ok_bind {ε β : Type} (x : α) (f : α → Except ε β) : (Except.ok x >>= f) = f x := rfl

lemma checkMembers_ok (h : ∀ m ∈ members, ∀ f ∈ shape.fields, f.name = m.1 → f.check m.2 = .ok ()) :
    shape.checkMembers members = .ok () := by
  induction members with
  | nil => rfl
  | cons m members ih =>
    have hrest := ih fun m hm => h m (List.mem_cons_of_mem _ hm)
    rw [RecordShape.checkMembers]
    split
    · exact hrest
    · next f hf =>
      have hname : f.name = m.1 := by simpa using List.find?_some hf
      rw [h m List.mem_cons_self f (List.mem_of_find?_eq_some hf) hname]
      exact hrest

/-- A record opens as soon as every field is there, once, with a value that passes its test. -/
lemma open_object (shape : RecordShape) (hperm : other.Perm members) (hnodup : (members.map Prod.fst).Nodup)
    (h : ∀ f ∈ shape.fields, ∃ value, members.lookup f.name = some value ∧ f.check value = .ok ()) :
    shape.open (.object other) = .ok other := by
  have hcheck : shape.checkMembers other = .ok () := by
    refine checkMembers_ok fun m hm f hf hname => ?_
    obtain ⟨value, hlookup, hvalue⟩ := h f hf
    rw [hname, lookup_of_mem hnodup (hperm.mem_iff.mp hm), Option.some.injEq] at hlookup
    rwa [hlookup]
  have hfilled : shape.missing? other = none := by
    refine List.find?_eq_none.mpr fun f hf => ?_
    obtain ⟨value, hlookup, _⟩ := h f hf
    simp [lookup_perm hperm hnodup, hlookup]
  rw [RecordShape.open, RecordShape.openObject, hcheck, hfilled]

lemma get_perm (hperm : other.Perm members) (hnodup : (members.map Prod.fst).Nodup)
    (decode : Json → Except Mismatch α) : other.get name decode = members.get name decode := by
  rw [Members.get, Members.get, lookup_perm hperm hnodup]

lemma tagged_object (title : String) (hperm : other.Perm ((name, value) :: members))
    (hnodup : (name :: members.map Prod.fst).Nodup) : ∃ rest : Members, rest.Perm members ∧
      Tagged.ofJson name title (.object other) = .ok ⟨value, .object rest⟩ := by
  have hlookup : other.lookup name = some value := by
    rw [lookup_perm hperm hnodup, List.lookup_cons_self]
  have hrest : (((name, value) :: members).filter fun m => m.1 != name) = members := by
    rw [List.filter_cons_of_neg (by simp), List.filter_eq_self]
    intro m hm
    have hne : m.1 ≠ name := by
      rintro rfl
      exact (List.nodup_cons.mp hnodup).1 (List.mem_map_of_mem hm)
    exact bne_iff_ne.mpr hne
  refine ⟨_, hrest ▸ hperm.filter _, ?_⟩
  rw [Tagged.ofJson, hlookup]

end Records

end LogicalVolumes.Json
