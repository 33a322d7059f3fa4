import LogicalVolumes.Proofs.Decode.RoundTrip
import Mathlib.Tactic.Choose

/-! Which objects are read as a desired state, and that of the names of their keys only the full ones count. -/

namespace LogicalVolumes.DesiredState

open Json

def fullNames : List String :=
  ["group_name", "volume_name", "volume_type", "size", "copies", "policy", "extra_options", "physical_volumes",
    "presence"]

def shortNames : List (String × String) :=
  [("vg", "group_name"), ("lv", "volume_name"), ("lv_type", "volume_type"), ("opts", "extra_options"),
    ("pvs", "physical_volumes"), ("state", "presence")]

/-- A short name made full; any other key stays as it is. -/
def fullName (key : String) : String := (shortNames.lookup key).getD key

def inFull (members : Members) : Members := members.map fun m => (fullName m.1, m.2)

def Spells (word : String) (value : Json) : Prop := value = .text word ∨ value = .object [(word, .null)]

/-- The values that have the type of the field. -/
def Field.Admits : Field → Json → Prop
  | .groupName, value | .volumeName, value | .volumeType, value | .extraOptions, value => ∃ s, value = .text s
  | .size, value => value = .null ∨ ∃ s, value = .text s
  | .copies, value => ∃ n : Nat, n < 256 ∧ value = .integer n
  | .policy, value => Spells "maximum" value ∨ Spells "minimum" value
  | .physicalVolumes, value => ∃ names : List String, value = .list (names.map .text)
  | .presence, value => Spells "present" value ∨ Spells "absent" value

structure Admitted (members : Members) : Prop where
  known : ∀ key ∈ members.map Prod.fst, key ∈ fullNames ∨ key ∈ shortNames.map Prod.fst
  once : (members.map Prod.fst).Nodup
  one_name : ∀ names ∈ shortNames, ¬ (names.1 ∈ members.map Prod.fst ∧ names.2 ∈ members.map Prod.fst)
  group_named : "group_name" ∈ members.map Prod.fst ∨ "vg" ∈ members.map Prod.fst
  volume_named : "volume_name" ∈ members.map Prod.fst ∨ "lv" ∈ members.map Prod.fst
  typed : ∀ m ∈ members, ∀ f : Field, fullName m.1 = f.name → f.Admits m.2

/-- The value says of the field what the state has there. A policy and a presence may also be written as an object
whose one member has their name. -/
def Says (desired : DesiredState) (f : Field) (value : Json) : Prop :=
  value = desired.encode f ∨
    (f = .policy ∨ f = .presence) ∧ ∃ word, desired.encode f = .text word ∧ value = .object [(word, .null)]

structure NamesInterchangeable (members : Members) : Prop where
  accepted : (∃ desired, ofJson (.object members) = .ok desired) ↔ Admitted members
  renamed : ∀ other : Members, (inFull other).Perm (inFull members) →
    ∀ desired, ofJson (.object other) = .ok desired ↔ ofJson (.object members) = .ok desired
  given : ∀ desired, ofJson (.object members) = .ok desired →
    ∀ m ∈ members, ∀ f : Field, fullName m.1 = f.name → Says desired f m.2
  omitted : ∀ desired, ofJson (.object members) = .ok desired →
    ∀ f : Field, (∀ m ∈ members, fullName m.1 ≠ f.name) →
      desired.encode f = (ofNames desired.groupName desired.volumeName).encode f

variable {desired other : DesiredState} {draft next final : Draft} {f g : Field} {members : Members}
  {m : String × Json} {key : String} {value : Json}

section Names

lemma fullName_eq_name : fullName key = f.name ↔ key ∈ f.names := by
  constructor
  · intro h
    rw [fullName] at h
    cases hlookup : shortNames.lookup key with
    | none =>
      rw [hlookup, Option.getD_none] at h
      subst h
      cases f <;> decide
    | some full =>
      rw [hlookup, Option.getD_some] at h
      obtain ⟨before, after, heq, _⟩ := List.lookup_eq_some_iff.mp hlookup
      have hshort : ∀ names ∈ shortNames, ∀ f ∈ Field.all, names.2 = f.name → names.1 ∈ f.names := by decide
      exact hshort (key, full) (by rw [heq]; simp) f (by cases f <;> decide) h
  · intro h
    have hfull : ∀ f ∈ Field.all, ∀ key ∈ f.names, fullName key = f.name := by decide
    exact hfull f (by cases f <;> decide) key h

lemma ofName?_eq_some : Field.ofName? key = some f ↔ fullName key = f.name := by
  rw [fullName_eq_name]
  constructor
  · intro h
    simpa using List.find?_some h
  · intro h
    have hfound : ∀ f ∈ Field.all, ∀ key ∈ f.names, Field.ofName? key = some f := by decide
    exact hfound f (by cases f <;> decide) key h

lemma name_injective : Function.Injective Field.name := by
  intro f g h
  have hf := ofName?_name f
  rwa [h, ofName?_name, Option.some.injEq, eq_comm] at hf

end Names

section Values

lemma text_of_toText {s : String} (h : toText value = .ok s) : value = .text s := by
  cases value <;> simp_all [toText, mistyped]

lemma optional_of_toOptionalText {s : Option String} (h : toOptionalText value = .ok s) :
    value = Json.optional .text s := by
  cases value with
  | null =>
    cases h
    rfl
  | text word =>
    cases h
    rfl
  | _ => cases h

lemma byte_of_toByte {n : UInt8} (h : toByte value = .ok n) : value = .byte n := by
  cases value with
  | integer k =>
    rw [toByte] at h
    cases k with
    | ofNat k =>
      have hnat : (Int.ofNat k).toNat? = some k := rfl
      rw [hnat, Option.bind_some, Number.byte?] at h
      split at h
      · next byte hbyte =>
        cases h
        split at hbyte
        · next hfits =>
          cases hbyte
          rw [byte, UInt8.toNat_ofNat_of_lt' hfits]
          rfl
        · cases hbyte
      · cases h
    | negSucc k => cases h
  | _ => cases h

lemma texts_of_mapM {items : List Json} {values : List String} (h : items.mapM toText = .ok values) :
    items = values.map .text := by
  induction items generalizing values with
  | nil =>
    cases h
    rfl
  | cons item items ih =>
    rw [List.mapM_cons] at h
    cases hitem : toText item with
    | error mismatch => simp [hitem, bind, Except.bind] at h
    | ok s =>
      rw [hitem, ok_bind] at h
      cases hitems : items.mapM toText with
      | error mismatch => simp [hitems, bind, Except.bind] at h
      | ok rest =>
        rw [hitems] at h
        cases h
        rw [text_of_toText hitem, ih hitems, List.map_cons]

lemma texts_of_toTexts {values : List String} (h : toTexts value = .ok values) : value = .texts values := by
  cases value with
  | list items => exact congrArg Json.list (texts_of_mapM h)
  | _ => cases h

lemma null_of_requireEmpty (h : value.requireEmpty .direct = .ok ()) : value = .null := by
  cases value with
  | null => rfl
  | object members => cases members <;> cases h
  | _ => cases h

lemma word_of_find {α : Type} {words : Vocabulary α} {w : String} {x : α} (h : words.find w = .ok x) :
    (w, x) ∈ words := by
  rw [Vocabulary.find] at h
  cases hlookup : words.lookup w with
  | none => simp [hlookup] at h
  | some y =>
    obtain rfl : y = x := by simpa [hlookup] using h
    obtain ⟨before, after, heq, _⟩ := List.lookup_eq_some_iff.mp hlookup
    simp [heq]

lemma spells_of_toChoice {α : Type} {words : Vocabulary α} {word : α → String} {x : α}
    (hwords : ∀ entry ∈ words, entry.1 = word entry.2) (h : value.toChoice words .direct = .ok x) :
    Spells (word x) value := by
  have hfound : ∀ w, words.find w = .ok x → w = word x := fun w hw => hwords (w, x) (word_of_find hw)
  cases value with
  | text w => exact .inl (congrArg Json.text (hfound w h))
  | object members =>
    match members with
    | [(w, content)] =>
      rw [toChoice] at h
      cases hfind : words.find w with
      | error mismatch => simp [hfind] at h
      | ok y =>
        cases hempty : content.requireEmpty .direct with
        | error mismatch => simp [hfind, hempty, Except.map] at h
        | ok u =>
          obtain rfl : y = x := by simpa [hfind, hempty, Except.map] using h
          rw [null_of_requireEmpty hempty, hfound w hfind]
          exact .inr rfl
    | [] => cases h
    | _ :: _ :: _ => cases h
  | _ => cases h

lemma spells_policy {policy : PlacementPolicy} (h : PlacementPolicy.ofJson .direct value = .ok policy) :
    Spells policy.word value :=
  spells_of_toChoice (by decide) h

lemma spells_presence {presence : Presence} (h : Presence.ofJson .direct value = .ok presence) :
    Spells presence.word value :=
  spells_of_toChoice (by decide) h

lemma says_choice {word : String} (hf : f = .policy ∨ f = .presence) (hword : desired.encode f = .text word) :
    Says desired f value ↔ Spells word value := by
  constructor
  · rintro (rfl | ⟨_, other, hother, rfl⟩)
    · exact .inl hword
    · obtain rfl := Json.text.inj (hother.symm.trans hword)
      exact .inr rfl
  · rintro (rfl | rfl)
    · exact .inl hword.symm
    · exact .inr ⟨hf, word, hword, rfl⟩

lemma says_policy : Says desired .policy value ↔ Spells desired.policy.word value :=
  says_choice (.inl rfl) rfl

lemma says_presence : Says desired .presence value ↔ Spells desired.presence.word value :=
  says_choice (.inr rfl) rfl

lemma says_plain (hpolicy : f ≠ .policy) (hpresence : f ≠ .presence) :
    Says desired f value ↔ value = desired.encode f := by
  simp [Says, hpolicy, hpresence]

end Values

section Step

lemma exists_of_map_ok {α β : Type} {x : Except Mismatch α} {g : α → β} {b : β} (h : x.map g = .ok b) :
    ∃ a, x = .ok a ∧ g a = b := by
  cases x with
  | error mismatch => cases h
  | ok a => exact ⟨a, rfl, Except.ok.inj h⟩

/-- What a value is read for is what it says. -/
lemma put_eq_ok : draft.put jsonReader f value = .ok next ↔
    ∃ desired, Says desired f value ∧ next = draft.take desired f := by
  constructor
  · intro h
    cases f <;> obtain ⟨x, hx, rfl⟩ := exists_of_map_ok h
    case groupName => exact ⟨{ ofNames "" "" with groupName := x }, .inl (text_of_toText hx), rfl⟩
    case volumeName => exact ⟨{ ofNames "" "" with volumeName := x }, .inl (text_of_toText hx), rfl⟩
    case volumeType => exact ⟨{ ofNames "" "" with volumeType := x }, .inl (text_of_toText hx), rfl⟩
    case size => exact ⟨{ ofNames "" "" with size := x }, .inl (optional_of_toOptionalText hx), rfl⟩
    case copies => exact ⟨{ ofNames "" "" with copies := x }, .inl (byte_of_toByte hx), rfl⟩
    case policy => exact ⟨{ ofNames "" "" with policy := x }, says_policy.mpr (spells_policy hx), rfl⟩
    case extraOptions => exact ⟨{ ofNames "" "" with extraOptions := x }, .inl (text_of_toText hx), rfl⟩
    case physicalVolumes => exact ⟨{ ofNames "" "" with physicalVolumes := x }, .inl (texts_of_toTexts hx), rfl⟩
    case presence => exact ⟨{ ofNames "" "" with presence := x }, says_presence.mpr (spells_presence hx), rfl⟩
  · rintro ⟨desired, rfl | ⟨rfl | rfl, word, hword, rfl⟩, rfl⟩
    · exact put_encode draft desired f
    · obtain rfl := Json.text.inj hword
      rw [← put_encode]
      cases hpolicy : desired.policy <;> simp [Draft.put, jsonReader, encode, hpolicy] <;> rfl
    · obtain rfl := Json.text.inj hword
      rw [← put_encode]
      cases hpresence : desired.presence <;> simp [Draft.put, jsonReader, encode, hpresence] <;> rfl

lemma putMember_eq_ok : draft.putMember m = .ok next ↔ ∃ f desired, fullName m.1 = f.name ∧
    draft.has f = false ∧ Says desired f m.2 ∧ next = draft.take desired f := by
  rw [Draft.putMember]
  cases hfield : Field.ofName? m.1 with
  | none =>
    refine iff_of_false (by simp) ?_
    rintro ⟨f, _, hname, _⟩
    cases hfield.symm.trans (ofName?_eq_some.mpr hname)
  | some f =>
    have hname := ofName?_eq_some.mp hfield
    have hsame : ∀ g : Field, fullName m.1 = g.name → f = g :=
      fun g hg => name_injective (hname.symm.trans hg)
    cases hhas : draft.has f with
    | true =>
      refine iff_of_false (by simp [hhas]) ?_
      rintro ⟨g, _, hg, hfresh, _⟩
      rw [← hsame g hg, hhas] at hfresh
      cases hfresh
    | false =>
      simp only [hhas, Bool.false_eq_true, if_false, put_eq_ok]
      constructor
      · rintro ⟨desired, hsaid, rfl⟩
        exact ⟨f, desired, hname, hhas, hsaid, rfl⟩
      · rintro ⟨g, desired, hg, _, hsaid, rfl⟩
        obtain rfl := hsame g hg
        exact ⟨desired, hsaid, rfl⟩

end Step

/-- The fields that have been read, as they are encoded. -/
def Draft.encode? (draft : Draft) : Field → Option Json
  | .groupName => draft.groupName.map .text
  | .volumeName => draft.volumeName.map .text
  | .volumeType => draft.volumeType.map .text
  | .size => draft.size.map (Json.optional .text)
  | .copies => draft.copies.map .byte
  | .policy => draft.policy.map PlacementPolicy.toJson
  | .extraOptions => draft.extraOptions.map .text
  | .physicalVolumes => draft.physicalVolumes.map .texts
  | .presence => draft.presence.map Presence.toJson

def Draft.Agrees (draft : Draft) (desired : DesiredState) : Prop :=
  ∀ f value, draft.encode? f = some value → value = desired.encode f

def Draft.takeAll (draft : Draft) (desired : DesiredState) (fields : List Field) : Draft :=
  fields.foldl (fun draft f => draft.take desired f) draft

section Drafts

variable {fields : List Field}

lemma has_eq_isSome (draft : Draft) (f : Field) : draft.has f = (draft.encode? f).isSome := by
  cases f <;> simp [Draft.has, Draft.encode?]

lemma encode?_take (draft : Draft) (desired : DesiredState) (f g : Field) :
    (draft.take desired f).encode? g = if f = g then some (desired.encode g) else draft.encode? g := by
  cases f <;> cases g <;> rfl

lemma encode?_takeAll (draft : Draft) (desired : DesiredState) (fields : List Field) (g : Field) :
    (draft.takeAll desired fields).encode? g =
      if g ∈ fields then some (desired.encode g) else draft.encode? g := by
  induction fields generalizing draft with
  | nil => simp [Draft.takeAll]
  | cons f fields ih =>
    have hstep : draft.takeAll desired (f :: fields) = (draft.take desired f).takeAll desired fields := rfl
    rw [hstep, ih, encode?_take]
    by_cases hg : g ∈ fields
    · simp [hg]
    · by_cases hf : f = g
      · simp [hf]
      · simp [hg, hf, Ne.symm hf]

lemma has_takeAll : (Draft.takeAll {} desired fields).has f = true ↔ f ∈ fields := by
  have hempty : Draft.encode? {} f = none := by cases f <;> rfl
  rw [has_eq_isSome, encode?_takeAll, hempty]
  by_cases hf : f ∈ fields <;> simp [hf]

lemma agrees_takeAll : (Draft.takeAll {} desired fields).Agrees desired := by
  intro f value hvalue
  have hempty : Draft.encode? {} f = none := by cases f <;> rfl
  rw [encode?_takeAll, hempty] at hvalue
  by_cases hf : f ∈ fields
  · simpa [hf, eq_comm] using hvalue
  · simp [hf] at hvalue

lemma take_congr (draft : Draft) (h : other.encode f = desired.encode f) :
    draft.take other f = draft.take desired f := by
  have hother := put_encode draft other f
  rw [h, put_encode] at hother
  exact (Except.ok.inj hother).symm

lemma Says.congr (hsaid : Says other f value) (h : other.encode f = desired.encode f) :
    Says desired f value := by
  rwa [Says, h] at hsaid

lemma agrees_of_take (h : (draft.take other f).Agrees desired) (hfresh : draft.has f = false) :
    other.encode f = desired.encode f ∧ draft.Agrees desired := by
  refine ⟨h f _ (by rw [encode?_take, if_pos rfl]), fun g value hvalue => h g value ?_⟩
  have hne : f ≠ g := by
    rintro rfl
    simp [has_eq_isSome, hvalue] at hfresh
  rw [encode?_take, if_neg hne, hvalue]

lemma agrees_of_foldlM (hfold : members.foldlM Draft.putMember draft = .ok final) (h : final.Agrees desired) :
    draft.Agrees desired := by
  induction members generalizing draft with
  | nil =>
    cases hfold
    exact h
  | cons m members ih =>
    rw [List.foldlM_cons] at hfold
    cases hput : draft.putMember m with
    | error mismatch =>
      rw [hput] at hfold
      cases hfold
    | ok next =>
      rw [hput, ok_bind] at hfold
      obtain ⟨f, other, _, hfresh, _, rfl⟩ := putMember_eq_ok.mp hput
      exact (agrees_of_take (ih hfold) hfresh).2

/-- Member after member fills the next one of these fields, with what the state has there. -/
inductive Reads (desired : DesiredState) : Draft → Members → List Field → Prop
  | nil {draft : Draft} : Reads desired draft [] []
  | cons {draft : Draft} {m : String × Json} {members : Members} {f : Field} {fields : List Field} :
      fullName m.1 = f.name → draft.has f = false → Says desired f m.2 →
      Reads desired (draft.take desired f) members fields → Reads desired draft (m :: members) (f :: fields)

lemma foldlM_eq_ok (h : final.Agrees desired) : members.foldlM Draft.putMember draft = .ok final ↔
    ∃ fields, Reads desired draft members fields ∧ draft.takeAll desired fields = final := by
  induction members generalizing draft with
  | nil =>
    constructor
    · rintro ⟨⟩
      exact ⟨[], .nil, rfl⟩
    · rintro ⟨fields, hreads, hfinal⟩
      cases hreads
      exact congrArg Except.ok hfinal
  | cons m members ih =>
    rw [List.foldlM_cons]
    constructor
    · intro hfold
      cases hput : draft.putMember m with
      | error mismatch =>
        rw [hput] at hfold
        cases hfold
      | ok next =>
        rw [hput, ok_bind] at hfold
        obtain ⟨f, other, hname, hfresh, hsaid, rfl⟩ := putMember_eq_ok.mp hput
        obtain ⟨hsame, _⟩ := agrees_of_take (agrees_of_foldlM hfold h) hfresh
        rw [take_congr draft hsame] at hfold
        obtain ⟨fields, hreads, hfinal⟩ := ih.mp hfold
        exact ⟨f :: fields, .cons hname hfresh (hsaid.congr hsame) hreads, hfinal⟩
    · rintro ⟨_, hreads, hfinal⟩
      cases hreads with
      | @cons _ _ _ f fields hname hfresh hsaid hrest =>
        rw [putMember_eq_ok.mpr ⟨f, desired, hname, hfresh, hsaid, rfl⟩, ok_bind]
        exact ih.mpr ⟨fields, hrest, hfinal⟩

end Drafts

section Whole

lemma encode_ext (h : ∀ f, other.encode f = desired.encode f) : other = desired := by
  have hmember : other.member = desired.member := funext fun f => congrArg (Prod.mk f.name) (h f)
  have hother : ofObject (Field.all.map other.member) = .ok other := ofObject_member (.refl _)
  rw [hmember, ofObject_member (.refl _)] at hother
  exact (Except.ok.inj hother).symm

lemma finish_spec (h : draft.finish = .ok desired) :
    draft.has .groupName = true ∧ draft.has .volumeName = true ∧
    draft.Agrees desired ∧ ∀ f, draft.has f = false →
      desired.encode f = (ofNames desired.groupName desired.volumeName).encode f := by
  rw [Draft.finish] at h
  cases hgroup : draft.groupName with
  | none => simp [hgroup] at h
  | some group =>
    cases hvolume : draft.volumeName with
    | none => simp [hgroup, hvolume] at h
    | some volume =>
      simp only [hgroup, hvolume, Except.ok.injEq] at h
      subst h
      refine ⟨by simp [Draft.has, hgroup], by simp [Draft.has, hvolume], ?_, ?_⟩
      · intro f value hvalue
        cases f <;> obtain ⟨x, hx, rfl⟩ := Option.map_eq_some_iff.mp hvalue <;> simp_all [encode]
      · intro f hf
        cases f <;> simp_all [Draft.has, encode]

lemma finish_named (hgroup : draft.has .groupName = true) (hvolume : draft.has .volumeName = true) :
    ∃ desired, draft.finish = .ok desired := by
  obtain ⟨group, hgroup⟩ := Option.isSome_iff_exists.mp hgroup
  obtain ⟨volume, hvolume⟩ := Option.isSome_iff_exists.mp hvolume
  exact ⟨_, by rw [Draft.finish, hgroup, hvolume]⟩

lemma finish_eq_ok : draft.finish = .ok desired ↔ draft.has .groupName = true ∧ draft.has .volumeName = true ∧
    draft.Agrees desired ∧ ∀ f, draft.has f = false →
      desired.encode f = (ofNames desired.groupName desired.volumeName).encode f := by
  refine ⟨finish_spec, ?_⟩
  rintro ⟨hgroup, hvolume, hagrees, hplain⟩
  obtain ⟨other, hother⟩ := finish_named hgroup hvolume
  obtain ⟨_, _, hagrees', hplain'⟩ := finish_spec hother
  have hread : ∀ f, draft.has f = true → other.encode f = desired.encode f := by
    intro f hf
    rw [has_eq_isSome] at hf
    obtain ⟨value, hvalue⟩ := Option.isSome_iff_exists.mp hf
    exact (hagrees' f value hvalue).symm.trans (hagrees f value hvalue)
  have hgroupName : other.groupName = desired.groupName := Json.text.inj (hread .groupName hgroup)
  have hvolumeName : other.volumeName = desired.volumeName := Json.text.inj (hread .volumeName hvolume)
  have hsame : ∀ f, other.encode f = desired.encode f := by
    intro f
    cases hf : draft.has f with
    | true => exact hread f hf
    | false => rw [hplain' f hf, hplain f hf, hgroupName, hvolumeName]
  rw [hother, encode_ext hsame]

end Whole

/-- The state with all that these members, with full names, say, and with nothing else given. -/
structure Describes (named : Members) (desired : DesiredState) : Prop where
  known : ∀ key ∈ named.map Prod.fst, ∃ f : Field, key = f.name
  once : (named.map Prod.fst).Nodup
  group_named : "group_name" ∈ named.map Prod.fst
  volume_named : "volume_name" ∈ named.map Prod.fst
  given : ∀ m ∈ named, ∀ f : Field, m.1 = f.name → Says desired f m.2
  omitted : ∀ f : Field, f.name ∉ named.map Prod.fst →
    desired.encode f = (ofNames desired.groupName desired.volumeName).encode f

section Objects

variable {named : Members} {fields : List Field}

lemma Describes.perm (h : Describes named desired) (hperm : members.Perm named) :
    Describes members desired := by
  have hkeys := hperm.map Prod.fst
  have hmem : ∀ key, key ∈ members.map Prod.fst ↔ key ∈ named.map Prod.fst := fun key => hkeys.mem_iff
  refine ⟨?_, hkeys.nodup_iff.mpr h.once, (hmem _).mpr h.group_named, (hmem _).mpr h.volume_named, ?_, ?_⟩
  · intro key hkey
    exact h.known key ((hmem key).mp hkey)
  · intro m hm
    exact h.given m (hperm.mem_iff.mp hm)
  · intro f hf
    exact h.omitted f fun hnamed => hf ((hmem _).mpr hnamed)

lemma Reads.names (h : Reads desired draft members fields) :
    (inFull members).map Prod.fst = fields.map Field.name := by
  induction h with
  | nil => rfl
  | cons hname _ _ _ ih => exact congrArg₂ List.cons hname ih

lemma Reads.given (h : Reads desired draft members fields) :
    ∀ m ∈ inFull members, ∀ f : Field, m.1 = f.name → Says desired f m.2 := by
  induction h with
  | nil => simp [inFull]
  | cons hname _ hsaid _ ih =>
    refine List.forall_mem_cons.mpr ⟨fun f hf => ?_, ih⟩
    obtain rfl := name_injective (hname.symm.trans hf)
    exact hsaid

lemma Reads.distinct (h : Reads desired draft members fields) :
    fields.Nodup ∧ ∀ f ∈ fields, draft.has f = false := by
  induction h with
  | nil => simp
  | @cons draft _ _ f fields _ hfresh _ _ ih =>
    obtain ⟨hnodup, hrest⟩ := ih
    have hself : (draft.take desired f).has f = true := by simp [has_eq_isSome, encode?_take]
    have hne : ∀ g ∈ fields, f ≠ g := by
      rintro g hg rfl
      simp [hrest f hg] at hself
    refine ⟨List.nodup_cons.mpr ⟨fun hmem => hne f hmem rfl, hnodup⟩, List.forall_mem_cons.mpr ⟨hfresh, ?_⟩⟩
    intro g hg
    have hg' := hrest g hg
    rwa [has_take (hne g hg)] at hg'

lemma reads_of_given (hknown : ∀ key ∈ (inFull members).map Prod.fst, ∃ f : Field, key = f.name)
    (honce : ((inFull members).map Prod.fst).Nodup)
    (hfresh : ∀ f : Field, f.name ∈ (inFull members).map Prod.fst → draft.has f = false)
    (hsaid : ∀ m ∈ inFull members, ∀ f : Field, m.1 = f.name → Says desired f m.2) :
    ∃ fields, Reads desired draft members fields := by
  induction members generalizing draft with
  | nil => exact ⟨[], .nil⟩
  | cons m members ih =>
    obtain ⟨⟨f, hname⟩, hknown⟩ := List.forall_mem_cons.mp hknown
    obtain ⟨hnew, honce⟩ := List.nodup_cons.mp honce
    obtain ⟨hfirst, hsaid⟩ := List.forall_mem_cons.mp hsaid
    have hnext : ∀ g : Field, g.name ∈ (inFull members).map Prod.fst → (draft.take desired f).has g = false := by
      intro g hg
      have hne : f ≠ g := by
        rintro rfl
        exact hnew (hname ▸ hg)
      rw [has_take hne]
      exact hfresh g (List.mem_cons_of_mem _ hg)
    obtain ⟨fields, hreads⟩ := ih hknown honce hnext hsaid
    exact ⟨f :: fields, .cons hname (hfresh f (hname ▸ List.mem_cons_self)) (hfirst f hname) hreads⟩

lemma ofJson_eq_ok : ofJson (.object members) = .ok desired ↔ Describes (inFull members) desired := by
  have hread : ofJson (.object members) = .ok desired ↔ ∃ final,
      members.foldlM Draft.putMember {} = .ok final ∧ final.finish = .ok desired := by
    rw [ofJson, ofObject]
    cases members.foldlM Draft.putMember {} <;> simp
  have hmem : ∀ {fields : List Field} (f : Field), f.name ∈ fields.map Field.name ↔ f ∈ fields :=
    fun f => List.mem_map_of_injective name_injective
  rw [hread]
  constructor
  · rintro ⟨final, hfold, hfinish⟩
    obtain ⟨hgroup, hvolume, hagrees, hplain⟩ := finish_eq_ok.mp hfinish
    obtain ⟨fields, hreads, rfl⟩ := (foldlM_eq_ok hagrees).mp hfold
    have hnames := hreads.names
    refine ⟨?_, ?_, ?_, ?_, hreads.given, ?_⟩ <;> rw [hnames]
    · intro key hkey
      obtain ⟨f, _, rfl⟩ := List.mem_map.mp hkey
      exact ⟨f, rfl⟩
    · exact hreads.distinct.1.map name_injective
    · exact (hmem .groupName).mpr (has_takeAll.mp hgroup)
    · exact (hmem .volumeName).mpr (has_takeAll.mp hvolume)
    · intro f hf
      refine hplain f ?_
      rw [Bool.eq_false_iff]
      exact fun hhas => hf ((hmem f).mpr (has_takeAll.mp hhas))
  · intro h
    have hempty : ∀ f, Draft.has {} f = false := by
      intro f
      cases f <;> rfl
    obtain ⟨fields, hreads⟩ := reads_of_given h.known h.once (fun f _ => hempty f) h.given
    have hnames := hreads.names
    refine ⟨_, (foldlM_eq_ok agrees_takeAll).mpr ⟨fields, hreads, rfl⟩, finish_eq_ok.mpr ⟨?_, ?_, ?_, ?_⟩⟩
    · exact has_takeAll.mpr ((hmem .groupName).mp (hnames ▸ h.group_named))
    · exact has_takeAll.mpr ((hmem .volumeName).mp (hnames ▸ h.volume_named))
    · exact agrees_takeAll
    · intro f hf
      refine h.omitted f fun hnamed => ?_
      rw [hnames] at hnamed
      simp [has_takeAll.mpr ((hmem f).mp hnamed)] at hf

end Objects

section Admission

lemma known_iff : key ∈ fullNames ∨ key ∈ shortNames.map Prod.fst ↔ ∃ f : Field, fullName key = f.name := by
  simp only [fullName_eq_name]
  constructor
  · intro h
    have hnames : ∀ key ∈ fullNames ++ shortNames.map Prod.fst, ∃ f ∈ Field.all, key ∈ f.names := by decide
    obtain ⟨f, _, hf⟩ := hnames key (List.mem_append.mpr h)
    exact ⟨f, hf⟩
  · rintro ⟨f, hf⟩
    have hnames : ∀ f ∈ Field.all, ∀ key ∈ f.names, key ∈ fullNames ++ shortNames.map Prod.fst := by decide
    exact List.mem_append.mp (hnames f (by cases f <;> decide) key hf)

/-- A field has at most two names, a short one and the full one. -/
lemma two_names {first second : String} (h₁ : fullName first = f.name) (h₂ : fullName second = f.name) :
    first = second ∨ (first, second) ∈ shortNames ∨ (second, first) ∈ shortNames := by
  rw [fullName_eq_name] at h₁ h₂
  have hnames : ∀ f ∈ Field.all, ∀ first ∈ f.names, ∀ second ∈ f.names,
      first = second ∨ (first, second) ∈ shortNames ∨ (second, first) ∈ shortNames := by decide
  exact hnames f (by cases f <;> decide) first h₁ second h₂

lemma keys_inFull (members : Members) : (inFull members).map Prod.fst = (members.map Prod.fst).map fullName := by
  rw [inFull, List.map_map, List.map_map]
  rfl

lemma admits_of_given (h : Says desired f value) : f.Admits value := by
  cases f with
  | policy =>
    have hword := says_policy.mp h
    cases hpolicy : desired.policy with
    | maximum => exact .inl (by rwa [hpolicy] at hword)
    | minimum => exact .inr (by rwa [hpolicy] at hword)
  | presence =>
    have hword := says_presence.mp h
    cases hpresence : desired.presence with
    | present => exact .inl (by rwa [hpresence] at hword)
    | absent => exact .inr (by rwa [hpresence] at hword)
  | size =>
    rw [says_plain (by decide) (by decide), encode] at h
    cases hsize : desired.size with
    | none => exact .inl (by rw [h, hsize]; rfl)
    | some s => exact .inr ⟨s, by rw [h, hsize]; rfl⟩
  | copies => exact ⟨_, desired.copies.toNat_lt, (says_plain (by decide) (by decide)).mp h⟩
  | _ => exact ⟨_, (says_plain (by decide) (by decide)).mp h⟩

lemma given_of_admits (h : f.Admits value) : ∃ desired, Says desired f value := by
  cases f with
  | groupName =>
    obtain ⟨s, rfl⟩ := h
    exact ⟨{ ofNames "" "" with groupName := s }, .inl rfl⟩
  | volumeName =>
    obtain ⟨s, rfl⟩ := h
    exact ⟨{ ofNames "" "" with volumeName := s }, .inl rfl⟩
  | volumeType =>
    obtain ⟨s, rfl⟩ := h
    exact ⟨{ ofNames "" "" with volumeType := s }, .inl rfl⟩
  | size =>
    rcases h with rfl | ⟨s, rfl⟩
    · exact ⟨ofNames "" "", .inl rfl⟩
    · exact ⟨{ ofNames "" "" with size := some s }, .inl rfl⟩
  | copies =>
    obtain ⟨n, hn, rfl⟩ := h
    refine ⟨{ ofNames "" "" with copies := UInt8.ofNat n }, .inl ?_⟩
    rw [encode, byte, UInt8.toNat_ofNat_of_lt' hn]
  | policy =>
    rcases h with hword | hword
    · exact ⟨{ ofNames "" "" with policy := .maximum }, says_policy.mpr hword⟩
    · exact ⟨{ ofNames "" "" with policy := .minimum }, says_policy.mpr hword⟩
  | extraOptions =>
    obtain ⟨s, rfl⟩ := h
    exact ⟨{ ofNames "" "" with extraOptions := s }, .inl rfl⟩
  | physicalVolumes =>
    obtain ⟨names, rfl⟩ := h
    exact ⟨{ ofNames "" "" with physicalVolumes := names }, .inl rfl⟩
  | presence =>
    rcases h with hword | hword
    · exact ⟨{ ofNames "" "" with presence := .present }, says_presence.mpr hword⟩
    · exact ⟨{ ofNames "" "" with presence := .absent }, says_presence.mpr hword⟩

lemma admitted_of_describes (h : Describes (inFull members) desired) : Admitted members := by
  obtain ⟨hknown, honce, hgroup, hvolume, hgiven, _⟩ := h
  rw [keys_inFull] at hknown honce hgroup hvolume
  have hnames : ∀ key ∈ members.map Prod.fst, ∃ f : Field, fullName key = f.name :=
    fun key hkey => hknown _ (List.mem_map_of_mem hkey)
  refine ⟨fun key hkey => known_iff.mpr (hnames key hkey), honce.of_map, ?_, ?_, ?_, ?_⟩
  · rintro names hshort ⟨hfirst, hsecond⟩
    have hsame : ∀ names ∈ shortNames, fullName names.1 = fullName names.2 ∧ names.1 ≠ names.2 := by decide
    obtain ⟨heq, hne⟩ := hsame names hshort
    exact hne (List.inj_on_of_nodup_map honce hfirst hsecond heq)
  · obtain ⟨key, hkey, hname⟩ := List.mem_map.mp hgroup
    have hfield : key ∈ ["group_name", "vg"] := fullName_eq_name (f := .groupName).mp hname
    rcases List.mem_pair.mp hfield with rfl | rfl
    · exact .inl hkey
    · exact .inr hkey
  · obtain ⟨key, hkey, hname⟩ := List.mem_map.mp hvolume
    have hfield : key ∈ ["lv", "volume_name"] := fullName_eq_name (f := .volumeName).mp hname
    rcases List.mem_pair.mp hfield with rfl | rfl
    · exact .inr hkey
    · exact .inl hkey
  · intro m hm f hf
    exact admits_of_given (hgiven (fullName m.1, m.2) (List.mem_map_of_mem hm) f hf)

/-- The state that has each field from the state given for it. -/
def assemble (state : Field → DesiredState) : DesiredState where
  groupName := (state .groupName).groupName
  volumeName := (state .volumeName).volumeName
  volumeType := (state .volumeType).volumeType
  size := (state .size).size
  copies := (state .copies).copies
  policy := (state .policy).policy
  extraOptions := (state .extraOptions).extraOptions
  physicalVolumes := (state .physicalVolumes).physicalVolumes
  presence := (state .presence).presence

lemma encode_assemble (state : Field → DesiredState) (f : Field) :
    (assemble state).encode f = (state f).encode f := by
  cases f <;> rfl

lemma Admitted.once_in_full (h : Admitted members) : ((inFull members).map Prod.fst).Nodup := by
  rw [keys_inFull]
  refine List.Nodup.map_on (fun first hfirst second hsecond heq => ?_) h.once
  obtain ⟨f, hf⟩ := known_iff.mp (h.known first hfirst)
  rcases two_names hf (heq ▸ hf) with rfl | hshort | hshort
  · rfl
  · exact absurd ⟨hfirst, hsecond⟩ (h.one_name _ hshort)
  · exact absurd ⟨hsecond, hfirst⟩ (h.one_name _ hshort)

/-- One value is given for the field at most, so that some state has what is said of it. -/
lemma Admitted.field_state (h : Admitted members) (f : Field) : ∃ desired,
    (∀ m ∈ inFull members, m.1 = f.name → Says desired f m.2) ∧
      (f.name ∉ (inFull members).map Prod.fst → desired.encode f = (ofNames "" "").encode f) := by
  by_cases hnamed : f.name ∈ (inFull members).map Prod.fst
  · obtain ⟨named, hmem, hname⟩ := List.mem_map.mp hnamed
    obtain ⟨m, hm, rfl⟩ := List.mem_map.mp hmem
    obtain ⟨desired, hsaid⟩ := given_of_admits (h.typed m hm f hname)
    refine ⟨desired, fun n hn hsame => ?_, fun hno => absurd hnamed hno⟩
    obtain rfl := List.inj_on_of_nodup_map h.once_in_full hn hmem (hsame.trans hname.symm)
    exact hsaid
  · refine ⟨ofNames "" "", fun m hm hname => ?_, fun _ => rfl⟩
    exact absurd (hname ▸ List.mem_map_of_mem hm) hnamed

lemma describes_of_admitted (h : Admitted members) : ∃ desired, Describes (inFull members) desired := by
  choose state hgiven hplain using h.field_state
  have hmem : ∀ key, key ∈ members.map Prod.fst → fullName key ∈ (inFull members).map Prod.fst := by
    intro key hkey
    rw [keys_inFull]
    exact List.mem_map_of_mem hkey
  have hgroup : "group_name" ∈ (inFull members).map Prod.fst := h.group_named.elim (hmem _) (hmem _)
  have hvolume : "volume_name" ∈ (inFull members).map Prod.fst := h.volume_named.elim (hmem _) (hmem _)
  refine ⟨assemble state, ?_, h.once_in_full, hgroup, hvolume, ?_, ?_⟩
  · rw [keys_inFull]
    intro key hkey
    obtain ⟨name, hname, rfl⟩ := List.mem_map.mp hkey
    exact known_iff.mp (h.known name hname)
  · intro m hm f hf
    exact (hgiven f m hm hf).congr (encode_assemble state f).symm
  · intro f hf
    rw [encode_assemble, hplain f hf]
    -- without its names, one plain state is like any other
    cases f with
    | groupName => exact absurd hgroup hf
    | volumeName => exact absurd hvolume hf
    | _ => rfl

end Admission

theorem names_interchangeable (members : Members) : NamesInterchangeable members where
  accepted := by
    constructor
    · rintro ⟨desired, h⟩
      exact admitted_of_describes (ofJson_eq_ok.mp h)
    · intro h
      obtain ⟨desired, hdescribes⟩ := describes_of_admitted h
      exact ⟨desired, ofJson_eq_ok.mpr hdescribes⟩
  renamed other hperm desired := by
    rw [ofJson_eq_ok, ofJson_eq_ok]
    exact ⟨fun h => h.perm hperm.symm, fun h => h.perm hperm⟩
  given desired h m hm f hf :=
    (ofJson_eq_ok.mp h).given (fullName m.1, m.2) (List.mem_map_of_mem hm) f hf
  omitted desired h f hf := by
    refine (ofJson_eq_ok.mp h).omitted f fun hnamed => ?_
    obtain ⟨named, hmem, hname⟩ := List.mem_map.mp hnamed
    obtain ⟨m, hm, rfl⟩ := List.mem_map.mp hmem
    exact hf m hm hname

example : ofJson (.object [("vg", .text "testvg"), ("lv", .text "testlv")]) = .ok (ofNames "testvg" "testlv") :=
  rfl

end LogicalVolumes.DesiredState
