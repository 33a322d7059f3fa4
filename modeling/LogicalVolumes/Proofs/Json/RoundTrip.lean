import LogicalVolumes.Proofs.Json.Literal
import Mathlib.Data.List.TakeWhile

/-! A value without fractions is read back from its text, each object with its members in order. -/

namespace LogicalVolumes.Json

open LogicalVolumes.Text

mutual

/-- The value with the members of each object in ascending order of their names. -/
def ordered : Json → Json
  | .list items => .list (orderedItems items)
  | .object members => .object (orderedMembers [] members)
  | value => value

def orderedItems : List Json → List Json
  | [] => []
  | item :: items => item.ordered :: orderedItems items

def orderedMembers (done : List (String × Json)) : List (String × Json) → List (String × Json)
  | [] => done
  | (name, value) :: members => orderedMembers (insertMember name value.ordered done) members

end

/-- Every number in the value is a whole one that its text keeps. -/
inductive Exact : Json → Prop
  | null : Exact .null
  | boolean (value : Bool) : Exact (.boolean value)
  | integer {value : Int} : -0x8000000000000000 ≤ value → value < 0x10000000000000000 → Exact (.integer value)
  | text (value : String) : Exact (.text value)
  | list {items : List Json} : (∀ item ∈ items, Exact item) → Exact (.list items)
  | object {members : List (String × Json)} : (∀ m ∈ members, Exact m.2) → Exact (.object members)

/-- Reading takes the text of the value off any text that does not go on with a number. -/
def ReadsBack (value : Json) : Prop :=
  ∀ fuel rest, value.characters.length ≤ fuel → EndsNumber rest →
    readValue fuel (value.characters ++ rest) = some (value.ordered, rest)

variable {value : Json} {items : List Json} {members : List (String × Json)} {c : Char} {s rest : List Char}
  {fuel : Nat}

section Values

lemma endsNumber_cons (hc : isAsciiDigit c = false ∧ c ≠ '.' ∧ c ≠ 'e' ∧ c ≠ 'E') (s : List Char) :
    EndsNumber (c :: s) := by
  intro d hd
  obtain rfl : c = d := by simpa using hd
  exact hc

lemma numeral_head (n : Nat) : ∃ c s, numeral n = c :: s ∧ isAsciiDigit c = true := by
  cases hs : numeral n with
  | nil => exact absurd hs (numeral_ne_nil n)
  | cons c s => exact ⟨c, s, rfl, isAsciiDigit_of_mem_numeral (hs ▸ List.mem_cons_self)⟩

lemma signedNumeral_head (i : Int) :
    ∃ c s, signedNumeral i = c :: s ∧ (c = '-' ∨ isAsciiDigit c = true) := by
  by_cases hi : i < 0
  · exact ⟨'-', numeral i.natAbs, by rw [signedNumeral, if_pos hi], .inl rfl⟩
  · obtain ⟨c, s, hs, hc⟩ := numeral_head i.natAbs
    exact ⟨c, s, by rw [signedNumeral, if_neg hi, hs], .inr hc⟩

lemma not_space_of_number (hc : c = '-' ∨ isAsciiDigit c = true) : isSpace c = false ∧ c ≠ ']' := by
  rcases hc with rfl | hc
  · decide
  · constructor
    · cases hspace : isSpace c with
      | false => rfl
      | true =>
        simp only [isSpace, Bool.or_eq_true, beq_iff_eq] at hspace
        rcases hspace with ((rfl | rfl) | rfl) | rfl <;> exact absurd hc (by decide)
    · rintro rfl
      exact absurd hc (by decide)

/-- A value starts with neither a blank nor a closing bracket. -/
lemma characters_head (h : value.Exact) : ∃ c s, value.characters = c :: s ∧ isSpace c = false ∧ c ≠ ']' := by
  cases h with
  | null => exact ⟨_, _, rfl, by decide⟩
  | boolean b => cases b <;> exact ⟨_, _, rfl, by decide⟩
  | @integer i _ _ =>
    obtain ⟨c, s, hs, hc⟩ := signedNumeral_head i
    exact ⟨c, s, hs, not_space_of_number hc⟩
  | text s => exact ⟨_, _, rfl, by decide⟩
  | @list items _ => cases items <;> exact ⟨_, _, rfl, by decide⟩
  | @object members _ => cases members <;> exact ⟨_, _, rfl, by decide⟩

lemma skipSpace_cons (hc : isSpace c = false) (s : List Char) : skipSpace (c :: s) = c :: s := by
  simp [skipSpace, hc]

lemma readValue_number (hc : c = '-' ∨ isAsciiDigit c = true) (s : List Char) :
    readValue (fuel + 1) (c :: s) = readNumber (c :: s) := by
  rw [readValue.eq_2, skipSpace_cons (not_space_of_number hc).1]
  have hne : ∀ d, isAsciiDigit d = false → d ≠ '-' → c ≠ d := by
    rintro d hd hsign rfl
    rcases hc with hc | hc
    · exact hsign hc
    · exact absurd hc (by simp [hd])
  split
  · next h => cases h
  · next h => exact absurd (List.cons.inj h).1 (hne _ (by decide) (by decide))
  · next h => exact absurd (List.cons.inj h).1 (hne _ (by decide) (by decide))
  · next h => exact absurd (List.cons.inj h).1 (hne _ (by decide) (by decide))
  · next h => exact absurd (List.cons.inj h).1 (hne _ (by decide) (by decide))
  · next h => exact absurd (List.cons.inj h).1 (hne _ (by decide) (by decide))
  · next h => exact absurd (List.cons.inj h).1 (hne _ (by decide) (by decide))
  · rfl

end Values

section Structures

lemma orderedItems_eq (items : List Json) : orderedItems items = items.map ordered := by
  induction items with
  | nil => rfl
  | cons item items ih => rw [orderedItems, ih, List.map_cons]

lemma readItems_step {item : Json} {t : List Char} (hitem : readValue fuel s = some (item, c :: t))
    (hc : isSpace c = false) (done : List Json) :
    readItems (fuel + 1) done s = match c :: t with
      | ',' :: t => readItems fuel (item :: done) t
      | ']' :: t => some (.list (item :: done).reverse, t)
      | _ => none := by
  simp only [readItems.eq_2, hitem, Option.bind_eq_bind, Option.bind_some, skipSpace_cons hc]
  rfl

lemma readItems_eq {item : Json} (hitem : item.ReadsBack) (hitems : ∀ x ∈ items, ReadsBack x)
    (hfuel : (item.characters ++ itemCharacters items).length ≤ fuel) (done : List Json)
    (rest : List Char) : readItems fuel done (item.characters ++ (itemCharacters items ++ rest)) =
      some (.list (done.reverse ++ (item :: items).map ordered), rest) := by
  induction items generalizing item fuel done with
  | nil =>
    simp only [itemCharacters, List.length_append, List.length_singleton] at hfuel
    obtain ⟨fuel, rfl⟩ := Nat.exists_eq_succ_of_ne_zero (by omega : fuel ≠ 0)
    have hread := hitem fuel (']' :: rest) (by omega) (endsNumber_cons (by decide) rest)
    rw [itemCharacters, List.singleton_append, readItems_step hread (by decide) done]
    simp
  | cons next items ih =>
    simp only [itemCharacters, List.length_append, List.length_cons] at hfuel
    obtain ⟨fuel, rfl⟩ := Nat.exists_eq_succ_of_ne_zero (by omega : fuel ≠ 0)
    have hleft : (next.characters ++ itemCharacters items).length ≤ fuel := by rw [List.length_append]; omega
    have hmore := ih (hitems next (by simp)) (fun x hx => hitems x (by simp [hx])) hleft (item.ordered :: done)
    have hread := hitem fuel (',' :: (next.characters ++ (itemCharacters items ++ rest))) (by omega)
      (endsNumber_cons (by decide) _)
    simp only [itemCharacters, List.cons_append, List.append_assoc]
    rw [readItems_step hread (by decide) done]
    simpa using hmore

lemma readMembers_step {name : String} {t : List Char} (hvalue : readValue fuel s = some (value, c :: t))
    (hc : isSpace c = false) (done : List (String × Json)) :
    readMembers (fuel + 1) done (textLiteral name.toList ++ ':' :: s) = match c :: t with
      | ',' :: t => readMembers fuel (insertMember name value done) t
      | '}' :: t => some (.object (insertMember name value done), t)
      | _ => none := by
  have hname : readText (skipSpace (textLiteral name.toList ++ ':' :: s)) = some (name, ':' :: s) :=
    readText_literal name (':' :: s)
  simp only [readMembers.eq_2, hname, Option.bind_eq_bind, Option.bind_some,
    skipSpace_cons (by decide : isSpace ':' = false), hvalue, skipSpace_cons hc]
  rfl

lemma readMembers_eq {name : String} (hvalue : value.ReadsBack) (hmembers : ∀ m ∈ members, ReadsBack m.2)
    (hfuel : (textLiteral name.toList ++ ':' :: (value.characters ++ memberCharacters members)).length ≤ fuel)
    (done : List (String × Json)) (rest : List Char) :
    readMembers fuel done
      (textLiteral name.toList ++ ':' :: (value.characters ++ (memberCharacters members ++ rest))) =
      some (.object (orderedMembers done ((name, value) :: members)), rest) := by
  induction members generalizing name value fuel done with
  | nil =>
    simp only [memberCharacters, List.length_append, List.length_cons, List.length_nil] at hfuel
    obtain ⟨fuel, rfl⟩ := Nat.exists_eq_succ_of_ne_zero (by omega : fuel ≠ 0)
    have hread := hvalue fuel ('}' :: rest) (by omega) (endsNumber_cons (by decide) rest)
    exact readMembers_step hread (by decide) done
  | cons next members ih =>
    obtain ⟨nextName, next⟩ := next
    simp only [memberCharacters, List.length_append, List.length_cons] at hfuel
    obtain ⟨fuel, rfl⟩ := Nat.exists_eq_succ_of_ne_zero (by omega : fuel ≠ 0)
    have hleft : (textLiteral nextName.toList ++ ':' :: (next.characters ++ memberCharacters members)).length ≤
        fuel := by
      simp only [List.length_append, List.length_cons]
      omega
    have hmore := ih (hmembers (nextName, next) (by simp)) (fun m hm => hmembers m (by simp [hm])) hleft
      (insertMember name value.ordered done)
    have hread := hvalue fuel (',' :: (textLiteral nextName.toList ++
      ':' :: (next.characters ++ (memberCharacters members ++ rest)))) (by omega)
      (endsNumber_cons (by decide) _)
    simp only [memberCharacters, List.cons_append, List.append_assoc]
    rw [readMembers_step hread (by decide) done]
    exact hmore

end Structures

lemma readsBack_of_succ (h : value.Exact) (hread : ∀ fuel rest, value.characters.length ≤ fuel + 1 →
    EndsNumber rest → readValue (fuel + 1) (value.characters ++ rest) = some (value.ordered, rest)) :
    value.ReadsBack := by
  intro fuel rest hfuel hrest
  obtain ⟨c, s, hs, _⟩ := characters_head h
  have hpos : 0 < value.characters.length := by simp [hs]
  obtain ⟨fuel, rfl⟩ := Nat.exists_eq_succ_of_ne_zero (by omega : fuel ≠ 0)
  exact hread fuel rest hfuel hrest

lemma readValue_list (hc : isSpace c = false ∧ c ≠ ']') (s : List Char) :
    readValue (fuel + 1) ('[' :: c :: s) = readItems fuel [] (c :: s) := by
  have hskip : skipSpace ('[' :: c :: s) = '[' :: c :: s := rfl
  simp only [readValue.eq_2, hskip, skipSpace_cons hc.1]
  split
  · next h => exact absurd (List.cons.inj h).1 hc.2
  · rfl

lemma Exact.readsBack (h : value.Exact) : value.ReadsBack := by
  -- each part is read within its whole, so that the hypothesis for it needs any fuel and any text behind
  induction h with
  | null => exact readsBack_of_succ .null fun _ _ _ _ => rfl
  | boolean b => exact readsBack_of_succ (.boolean b) fun _ _ _ _ => by cases b <;> rfl
  | @integer i hlow hhigh =>
    refine readsBack_of_succ (.integer hlow hhigh) fun fuel rest _ hrest => ?_
    obtain ⟨c, s, hs, hc⟩ := signedNumeral_head i
    have hread := readNumber_signedNumeral hlow hhigh hrest
    rw [hs, List.cons_append] at hread
    rw [characters, hs, List.cons_append, readValue_number hc, hread]
    rfl
  | text s =>
    refine readsBack_of_succ (.text s) fun fuel rest _ _ => ?_
    have hread := readText_literal s rest
    exact congrArg (Option.map fun r => (Json.text r.1, r.2)) hread
  | @list items hexact ih =>
    refine readsBack_of_succ (.list hexact) fun fuel rest hfuel hrest => ?_
    cases items with
    | nil => rfl
    | cons item items =>
      obtain ⟨c, s, hs, hc⟩ := characters_head (hexact item (by simp))
      have hitems : (item.characters ++ itemCharacters items).length ≤ fuel := by simpa [characters] using hfuel
      have hread := readItems_eq (ih item (by simp)) (fun x hx => ih x (List.mem_cons_of_mem _ hx)) hitems []
        rest
      rw [hs, List.cons_append] at hread
      simp only [characters, hs, List.cons_append, List.append_assoc, readValue_list hc, hread]
      simp [ordered, orderedItems_eq]
  | @object members hexact ih =>
    refine readsBack_of_succ (.object hexact) fun fuel rest hfuel hrest => ?_
    cases members with
    | nil => rfl
    | cons member members =>
      obtain ⟨name, value⟩ := member
      have hmembers : (textLiteral name.toList ++ ':' :: (value.characters ++ memberCharacters members)).length ≤
          fuel := by
        simpa [characters] using hfuel
      have hread := readMembers_eq (ih (name, value) (by simp)) (fun m hm => ih m (List.mem_cons_of_mem _ hm))
        hmembers [] rest
      simp only [characters, List.cons_append, List.append_assoc]
      exact hread

/-- The text of a value is read as the value, also with blanks behind it. -/
theorem read_compact (h : value.Exact) (hblank : ∀ c ∈ s, isSpace c = true) :
    read (value.compact ++ String.ofList s) = some value.ordered := by
  have hend : EndsNumber s := by
    intro c hc
    have hspace := hblank c (List.mem_of_head? hc)
    simp only [isSpace, Bool.or_eq_true, beq_iff_eq] at hspace
    rcases hspace with ((rfl | rfl) | rfl) | rfl <;> decide
  have hskip : skipSpace s = [] := List.dropWhile_eq_nil_iff.mpr hblank
  have hread := h.readsBack (value.characters.length + s.length + 1) s (by omega) hend
  simp [read, compact, hread, hskip]

section Lines

/-- No character of the text ends a line or moves the cursor. -/
def Printable (s : List Char) : Prop := ∀ c ∈ s, ' ' ≤ c

lemma printable_append {t : List Char} (hs : Printable s) (ht : Printable t) : Printable (s ++ t) :=
  List.forall_mem_append.mpr ⟨hs, ht⟩

lemma printable_cons (hc : ' ' ≤ c) (hs : Printable s) : Printable (c :: s) :=
  List.forall_mem_cons.mpr ⟨hc, hs⟩

lemma printable_escape (c : Char) : Printable (escapeCharacter c) := by
  have hdigit : ∀ n : Fin 16, ' ' ≤ Nat.digitChar n.val := by decide
  have hhex : ∀ n : Nat, ' ' ≤ hexDigit n := fun n => hdigit ⟨n % 16, Nat.mod_lt n (by decide)⟩
  unfold escapeCharacter
  repeat' split
  all_goals simp_all [Printable]

lemma printable_literal (s : List Char) : Printable (textLiteral s) := by
  have hbody : Printable (s.flatMap escapeCharacter) := by
    intro c hc
    obtain ⟨d, _, hd⟩ := List.mem_flatMap.mp hc
    exact printable_escape d c hd
  exact printable_append (printable_cons (by decide) hbody) (printable_cons (by decide) (by simp [Printable]))

lemma printable_signedNumeral (i : Int) : Printable (signedNumeral i) := by
  have hnumeral : Printable (numeral i.natAbs) := by
    intro c hc
    have hdigit := isAsciiDigit_of_mem_numeral hc
    simp only [isAsciiDigit, Bool.and_eq_true, decide_eq_true_eq] at hdigit
    exact Char.le_trans (by decide) hdigit.1
  by_cases hi : i < 0
  · rw [signedNumeral, if_pos hi]
    exact printable_cons (by decide) hnumeral
  · rwa [signedNumeral, if_neg hi]

lemma printable_items (h : ∀ item ∈ items, Printable item.characters) : Printable (itemCharacters items) := by
  induction items with
  | nil => simp [itemCharacters, Printable]
  | cons item items ih =>
    have hrest := ih fun x hx => h x (List.mem_cons_of_mem _ hx)
    rw [itemCharacters]
    exact printable_append (printable_cons (by decide) (h item (by simp))) hrest

lemma printable_members (h : ∀ m ∈ members, Printable m.2.characters) :
    Printable (memberCharacters members) := by
  induction members with
  | nil => simp [memberCharacters, Printable]
  | cons member members ih =>
    obtain ⟨name, value⟩ := member
    have hrest := ih fun m hm => h m (List.mem_cons_of_mem _ hm)
    have hname := printable_cons (by decide : ' ' ≤ ',') (printable_literal name.toList)
    have hvalue := printable_cons (by decide : ' ' ≤ ':') (h (name, value) (by simp))
    rw [memberCharacters]
    exact printable_append (printable_append hname hvalue) hrest

lemma Exact.printable (h : value.Exact) : Printable value.characters := by
  induction h with
  | null => simp [characters, Printable]
  | boolean b => cases b <;> simp [characters, Printable]
  | integer _ _ => exact printable_signedNumeral _
  | text s => exact printable_literal s.toList
  | @list items _ ih =>
    cases items with
    | nil => simp [characters, Printable]
    | cons item items =>
      have hitems := printable_items fun x hx => ih x (List.mem_cons_of_mem _ hx)
      rw [characters]
      exact printable_append (printable_cons (by decide) (ih item (by simp))) hitems
  | @object members _ ih =>
    cases members with
    | nil => simp [characters, Printable]
    | cons member members =>
      obtain ⟨name, value⟩ := member
      have hmembers := printable_members fun m hm => ih m (List.mem_cons_of_mem _ hm)
      have hname := printable_cons (by decide : ' ' ≤ '\x7b') (printable_literal name.toList)
      have hvalue := printable_cons (by decide : ' ' ≤ ':') (ih (name, value) (by simp))
      rw [characters]
      exact printable_append (printable_append hname hvalue) hmembers

end Lines

end LogicalVolumes.Json
