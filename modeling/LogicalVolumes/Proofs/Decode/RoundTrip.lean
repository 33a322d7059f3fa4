import LogicalVolumes.Desired.Json
import LogicalVolumes.Proofs.Decode.Record
import Mathlib.Data.List.Perm.Basic
import Mathlib.Data.Set.List

/-! States, facts and actions decode from their encodings, also when the encoding has been written as a text. -/

namespace LogicalVolumes

open Json

/-- An object with these members, in whatever order, decodes to `x`. -/
def DecodesTo {α : Type} (decode : Json → Except Mismatch α) (members : Members) (x : α) : Prop :=
  ∀ other : Members, other.Perm members → decode (.object other) = .ok x

/-- Decoding undoes encoding: on the encoded value, on the value with its members in order of their names, and
on the text of the value. -/
structure Undoes {α : Type} (decode : Json → Except Mismatch α) (encode : α → Json) : Prop where
  direct : ∀ x, decode (encode x) = .ok x
  sorted : ∀ x, decode (encode x).ordered = .ok x
  printed : ∀ x, (Json.read (encode x).compact).map decode = some (.ok x)

variable {α : Type} {members : Members}

section Recipe

variable {decode : Json → Except Mismatch α} {encode : α → Json} {x : α}

lemma Undoes.of_values (hdirect : ∀ x, decode (encode x) = .ok x)
    (hsorted : ∀ x, decode (encode x).ordered = .ok x) (hexact : ∀ x, (encode x).Exact) :
    Undoes decode encode where
  direct := hdirect
  sorted := hsorted
  printed x := by
    have hread := read_compact (s := []) (hexact x) (by simp)
    rw [String.ofList_nil, String.append_empty] at hread
    rw [hread, Option.map_some, hsorted]

lemma DecodesTo.self (h : DecodesTo decode members x) : decode (.object members) = .ok x :=
  h members (.refl _)

lemma DecodesTo.sorted (h : DecodesTo decode (members.map orderedMember) x)
    (hnodup : (members.map Prod.fst).Nodup) : decode (Json.object members).ordered = .ok x := by
  obtain ⟨other, hperm, hordered⟩ := ordered_object hnodup
  rw [hordered]
  exact h other hperm

end Recipe

section Words

@[simp] lemma PlacementPolicy.ofJson_toJson (reading : Reading) (policy : PlacementPolicy) :
    ofJson reading policy.toJson = .ok policy := by
  cases policy <;> rfl

@[simp] lemma Presence.ofJson_toJson (reading : Reading) (presence : Presence) :
    ofJson reading presence.toJson = .ok presence := by
  cases presence <;> rfl

end Words

section Facts

lemma GroupFacts.decodesTo (facts : GroupFacts) : DecodesTo GroupFacts.ofJson
    [("name", .text facts.name), ("total_capacity", .word facts.totalCapacity),
      ("free_capacity", .word facts.freeCapacity), ("allocation_unit_size", .word facts.unitSize)] facts := by
  intro other hperm
  have hopen := open_object shape hperm (by simp) (by simp [shape, field, List.lookup_cons, Except.map])
  simp only [ofJson, hopen, ok_bind, get_perm hperm (by simp)]
  simp [ok_bind, Members.get, List.lookup_cons]

lemma VolumeFacts.decodesTo (facts : VolumeFacts) : DecodesTo VolumeFacts.ofJson
    [("name", .text facts.name), ("group_name", .text facts.groupName), ("size", .word facts.size),
      ("policy", facts.policy.toJson)] facts := by
  intro other hperm
  have hopen := open_object shape hperm (by simp) (by simp [shape, field, List.lookup_cons, Except.map])
  simp only [ofJson, hopen, ok_bind, get_perm hperm (by simp)]
  simp [ok_bind, Members.get, List.lookup_cons]

end Facts

section Actions

lemma VolumeLayout.decodesTo (layout : VolumeLayout) :
    DecodesTo VolumeLayout.ofJson layout.members layout := by
  intro other hperm
  have hopen := open_object shape hperm (by simp [members])
    (by simp [members, shape, field, List.lookup_cons, Except.map])
  simp only [ofJson, hopen, ok_bind, get_perm hperm (by simp [members])]
  simp [ok_bind, members, Members.get, List.lookup_cons]

lemma KeepReason.decodesTo (reason : KeepReason) (h : reason.toJson = .object members) :
    DecodesTo KeepReason.ofJson members reason := by
  intro other hperm
  cases reason with
  | alreadyAbsent =>
    cases h
    obtain ⟨rest, _, htag⟩ := tagged_object "NoOpReason" hperm (by simp)
    simp only [ofJson, htag, ok_bind]
    rfl
  | alreadyExists =>
    cases h
    obtain ⟨rest, _, htag⟩ := tagged_object "NoOpReason" hperm (by simp)
    simp only [ofJson, htag, ok_bind]
    rfl
  | sizeMatches size =>
    cases h
    obtain ⟨rest, hrest, htag⟩ := tagged_object "NoOpReason" hperm (by simp)
    have hvariant : (Json.text "size_matches").toVariant vocabulary .setAside = .ok .sizeMatches := rfl
    have hopen := open_object sizeShape hrest (by simp)
      (by simp [sizeShape, field, List.lookup_cons, Except.map])
    simp only [ofJson, htag, hvariant, hopen, ok_bind, get_perm hrest (by simp)]
    simp [Members.get]

/-- The reason of a kept state may itself have its members in any order. -/
lemma Action.decodesTo_keep {reason : KeepReason} {value : Json}
    (hvalue : KeepReason.ofJson value = .ok reason) :
    DecodesTo Action.ofJson [("kind", .text "no_op"), ("reason", value)] (.keep reason) := by
  intro other hperm
  obtain ⟨rest, hrest, htag⟩ := tagged_object "Action" hperm (by simp)
  have hvariant : (Json.text "no_op").toVariant vocabulary .direct = .ok .keep := rfl
  have hopen := open_object keepShape hrest (by simp)
    (by simp [keepShape, field, List.lookup_cons, Except.map, hvalue])
  simp only [ofJson, htag, hvariant, hopen, ok_bind, get_perm hrest (by simp)]
  simp [Members.get, hvalue]

lemma Action.decodesTo_change (change : Change) (h : (Action.change change).toJson = .object members) :
    DecodesTo Action.ofJson members (.change change) := by
  intro other hperm
  cases change with
  | create layout =>
    cases h
    obtain ⟨rest, hrest, htag⟩ := tagged_object "Action" hperm (by simp [VolumeLayout.members])
    have hvariant : (Json.text "create").toVariant vocabulary .direct = .ok .create := rfl
    simp [ofJson, htag, hvariant, layout.decodesTo rest hrest, ok_bind]
  | delete =>
    cases h
    obtain ⟨rest, _, htag⟩ := tagged_object "Action" hperm (by simp)
    simp only [ofJson, htag, ok_bind]
    rfl
  | resize delta target =>
    cases h
    obtain ⟨rest, hrest, htag⟩ := tagged_object "Action" hperm (by simp)
    have hvariant : (Json.text "resize").toVariant vocabulary .direct = .ok .resize := rfl
    have hopen := open_object resizeShape hrest (by simp)
      (by simp [resizeShape, field, List.lookup_cons, Except.map])
    simp only [ofJson, htag, hvariant, hopen, ok_bind, get_perm hrest (by simp)]
    simp [ok_bind, Members.get, List.lookup_cons]
  | setPolicy policy =>
    cases h
    obtain ⟨rest, hrest, htag⟩ := tagged_object "Action" hperm (by simp)
    have hvariant : (Json.text "change_policy").toVariant vocabulary .direct = .ok .setPolicy := rfl
    have hopen := open_object policyShape hrest (by simp)
      (by simp [policyShape, field, List.lookup_cons, Except.map])
    simp only [ofJson, htag, hvariant, hopen, ok_bind, get_perm hrest (by simp)]
    simp [Members.get]

end Actions

namespace DesiredState

variable {desired : DesiredState} {draft : Draft} {f g : Field}

section States

/-- The value of a field as it is encoded. -/
def encode (desired : DesiredState) : Field → Json
  | .groupName => .text desired.groupName
  | .volumeName => .text desired.volumeName
  | .volumeType => .text desired.volumeType
  | .size => optional .text desired.size
  | .copies => .byte desired.copies
  | .policy => desired.policy.toJson
  | .extraOptions => .text desired.extraOptions
  | .physicalVolumes => .texts desired.physicalVolumes
  | .presence => desired.presence.toJson

def member (desired : DesiredState) (f : Field) : String × Json := (f.name, desired.encode f)

lemma toJson_eq (desired : DesiredState) : desired.toJson = .object (Field.all.map desired.member) := rfl

/-- The draft with one more field of the state. -/
def Draft.take (draft : Draft) (desired : DesiredState) : Field → Draft
  | .groupName => { draft with groupName := some desired.groupName }
  | .volumeName => { draft with volumeName := some desired.volumeName }
  | .volumeType => { draft with volumeType := some desired.volumeType }
  | .size => { draft with size := some desired.size }
  | .copies => { draft with copies := some desired.copies }
  | .policy => { draft with policy := some desired.policy }
  | .extraOptions => { draft with extraOptions := some desired.extraOptions }
  | .physicalVolumes => { draft with physicalVolumes := some desired.physicalVolumes }
  | .presence => { draft with presence := some desired.presence }

lemma ofName?_name (f : Field) : Field.ofName? f.name = some f := by
  cases f <;> rfl

lemma member_injective : Function.Injective desired.member := by
  intro f g h
  have hfield := ofName?_name f
  rwa [show f.name = g.name from congrArg Prod.fst h, ofName?_name, Option.some.injEq, eq_comm] at hfield

lemma put_encode (draft : Draft) (desired : DesiredState) (f : Field) :
    draft.put jsonReader f (desired.encode f) = .ok (draft.take desired f) := by
  cases f <;> simp [Draft.put, Draft.take, encode, jsonReader, Except.map]

lemma has_take (hne : f ≠ g) : (draft.take desired f).has g = draft.has g := by
  cases f <;> cases g <;> first | rfl | exact absurd rfl hne

lemma take_comm (draft : Draft) (f g : Field) :
    (draft.take desired f).take desired g = (draft.take desired g).take desired f := by
  cases f <;> cases g <;> rfl

lemma putMember_member (hfresh : draft.has f = false) :
    draft.putMember (desired.member f) = .ok (draft.take desired f) := by
  simp [Draft.putMember, member, ofName?_name, hfresh, put_encode]

lemma foldlM_member (desired : DesiredState) {fields : List Field} (hnodup : fields.Nodup)
    (hfresh : ∀ f ∈ fields, draft.has f = false) :
    (fields.map desired.member).foldlM Draft.putMember draft =
      .ok (fields.foldl (fun draft f => draft.take desired f) draft) := by
  induction fields generalizing draft with
  | nil => rfl
  | cons f fields ih =>
    obtain ⟨hmem, hrest⟩ := List.nodup_cons.mp hnodup
    -- the fields still to come stay unset, as none of them is `f` again
    have hnext : ∀ g ∈ fields, (draft.take desired f).has g = false := by
      intro g hg
      rw [has_take (by rintro rfl; exact hmem hg)]
      exact hfresh g (List.mem_cons_of_mem _ hg)
    rw [List.map_cons, List.foldlM_cons, putMember_member (hfresh f List.mem_cons_self), ok_bind, ih hrest hnext]
    rfl

/-- In whatever order the fields are read, the whole state comes out. -/
lemma ofObject_member {fields : List Field} (hperm : fields.Perm Field.all) :
    ofObject (fields.map desired.member) = .ok desired := by
  have hnodup : fields.Nodup := hperm.nodup_iff.mpr (by decide)
  have hfresh : ∀ f ∈ fields, Draft.has {} f = false := fun f _ => by cases f <;> rfl
  have hread := foldlM_member desired hnodup hfresh
  have horder := hperm.foldl_eq' (f := fun draft f => Draft.take draft desired f)
    (fun f _ g _ draft => take_comm draft f g) {}
  rw [ofObject, hread, horder]
  rfl

lemma decodesTo (desired : DesiredState) : DecodesTo ofJson (Field.all.map desired.member) desired := by
  intro other hperm
  -- a reordered list of the members is the members of a reordered list of the fields
  have hrange : other ∈ Set.range (List.map desired.member) := by
    rw [Set.range_list_map]
    intro m hm
    obtain ⟨f, _, hf⟩ := List.mem_map.mp (hperm.mem_iff.mp hm)
    exact ⟨f, hf⟩
  obtain ⟨fields, rfl⟩ := hrange
  exact ofObject_member ((List.map_perm_map_iff member_injective).mp hperm)

lemma ordered_encode (desired : DesiredState) (f : Field) : (desired.encode f).ordered = desired.encode f := by
  cases f <;> simp [encode, byte, PlacementPolicy.toJson, Presence.toJson, ordered]

lemma exact_encode (desired : DesiredState) (f : Field) : (desired.encode f).Exact := by
  cases f with
  | size => exact exact_optional_text desired.size
  | copies => exact exact_byte desired.copies
  | physicalVolumes => exact exact_texts desired.physicalVolumes
  | _ => exact .text _

end States

lemma undoes : Undoes ofJson toJson := by
  apply Undoes.of_values
  · intro desired
    exact desired.decodesTo.self
  · intro desired
    have hsame : (Field.all.map desired.member).map orderedMember = Field.all.map desired.member := by
      rw [List.map_map]
      exact List.map_congr_left fun f _ => Prod.ext rfl (desired.ordered_encode f)
    have hdecodes := desired.decodesTo
    rw [← hsame] at hdecodes
    exact hdecodes.sorted (by simp [Field.all, member, Field.name])
  · intro desired
    rw [toJson_eq]
    refine .object fun m hm => ?_
    obtain ⟨f, _, rfl⟩ := List.mem_map.mp hm
    exact desired.exact_encode f

end DesiredState

section Facts

lemma PlacementPolicy.exact (policy : PlacementPolicy) : policy.toJson.Exact :=
  .text policy.word

lemma GroupFacts.undoes : Undoes GroupFacts.ofJson GroupFacts.toJson := by
  apply Undoes.of_values
  · exact fun facts => facts.decodesTo.self
  · exact fun facts => DecodesTo.sorted facts.decodesTo (by simp)
  · intro facts
    refine .object ?_
    simp [Exact.text, exact_word]

lemma VolumeFacts.undoes : Undoes VolumeFacts.ofJson VolumeFacts.toJson := by
  apply Undoes.of_values
  · exact fun facts => facts.decodesTo.self
  · exact fun facts => DecodesTo.sorted facts.decodesTo (by simp)
  · intro facts
    refine .object ?_
    simp [Exact.text, exact_word, PlacementPolicy.exact]

end Facts

section Actions

lemma KeepReason.exact (reason : KeepReason) : reason.toJson.Exact := by
  cases reason <;> exact .object (by simp [Exact.text, exact_word])

lemma KeepReason.decode_direct (reason : KeepReason) : ofJson reason.toJson = .ok reason := by
  cases reason <;> exact (decodesTo _ rfl).self

lemma KeepReason.decode_sorted (reason : KeepReason) : ofJson reason.toJson.ordered = .ok reason := by
  cases reason <;> exact DecodesTo.sorted (decodesTo _ rfl) (by simp)

lemma VolumeLayout.ordered_members (layout : VolumeLayout) :
    layout.members.map orderedMember = layout.members := by
  simp [members, orderedMember, word, byte, PlacementPolicy.toJson, ordered]

lemma Change.exact (change : Change) : (Action.change change).toJson.Exact := by
  cases change <;> refine .object ?_ <;>
    simp [VolumeLayout.members, Exact.text, exact_word, exact_byte, exact_texts, PlacementPolicy.exact]

lemma Change.decode_direct (change : Change) :
    Action.ofJson (Action.change change).toJson = .ok (.change change) := by
  cases change <;> exact (Action.decodesTo_change _ rfl).self

lemma Change.decode_sorted (change : Change) :
    Action.ofJson (Action.change change).toJson.ordered = .ok (.change change) := by
  cases change with
  | create layout =>
    have hdecodes := Action.decodesTo_change (.create layout) rfl
    rw [← layout.ordered_members] at hdecodes
    exact DecodesTo.sorted hdecodes (by simp [VolumeLayout.members])
  | delete | resize | setPolicy => exact DecodesTo.sorted (Action.decodesTo_change _ rfl) (by simp)

lemma Action.exact (action : Action) : action.toJson.Exact := by
  cases action with
  | keep reason => exact .object (by simp [Exact.text, reason.exact])
  | change change => exact change.exact

lemma Action.undoes : Undoes Action.ofJson Action.toJson := by
  apply Undoes.of_values
  · intro action
    cases action with
    | keep reason => exact (Action.decodesTo_keep reason.decode_direct).self
    | change change => exact change.decode_direct
  · intro action
    cases action with
    | keep reason => exact DecodesTo.sorted (Action.decodesTo_keep reason.decode_sorted) (by simp)
    | change change => exact change.decode_sorted
  · exact Action.exact

end Actions

lemma Undoes.injective {α : Type} {decode : Json → Except Mismatch α} {encode : α → Json}
    (h : Undoes decode encode) : Function.Injective fun x => (encode x).compact := by
  intro x y heq
  have hsame : (encode x).compact = (encode y).compact := heq
  have hx := h.printed x
  rw [hsame, h.printed y, Option.some.injEq, Except.ok.injEq] at hx
  exact hx.symm

/-- Decoding gives back every state, all facts and every action; and no two actions are written alike. -/
theorem decode_undoes_encode :
    Undoes DesiredState.ofJson DesiredState.toJson ∧ Undoes GroupFacts.ofJson GroupFacts.toJson ∧
      Undoes VolumeFacts.ofJson VolumeFacts.toJson ∧ Undoes Action.ofJson Action.toJson ∧
      ∀ a b : Action, a ≠ b → a.toJson ≠ b.toJson ∧ a.toJson.compact ≠ b.toJson.compact := by
  refine ⟨DesiredState.undoes, GroupFacts.undoes, VolumeFacts.undoes, Action.undoes, fun a b hne => ?_⟩
  have htext : a.toJson.compact ≠ b.toJson.compact := fun h => hne (Action.undoes.injective h)
  exact ⟨fun h => htext (congrArg Json.compact h), htext⟩

end LogicalVolumes
