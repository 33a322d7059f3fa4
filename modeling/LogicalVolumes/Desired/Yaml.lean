import LogicalVolumes.Decode.Value
import LogicalVolumes.Desired.Field
import LogicalVolumes.Yaml.Document
import LogicalVolumes.Yaml.Scalar.Value

/-!
Desired states as YAML documents: a mapping with every field under one of its names, in any order. A
mismatch is placed where it arose: at the value that is wrong, at a key, or else where the mapping starts.
-/

namespace LogicalVolumes

namespace Yaml

/-- A mismatch that may not have been placed yet. -/
structure ReadFault where
  cause : Mismatch
  place : Option Place := none

/-- Places a mismatch that has no place. -/
def ReadFault.placedAt (path : List PathStep) (mark : Mark) (fault : ReadFault) : ReadFault :=
  { fault with place := some (fault.place.getD ⟨path, mark.position⟩) }

/-- A node with the way to it. -/
structure Located where
  path : List PathStep
  node : Node Nat

def boolTag : TagBytes :=
  TagBytes.ofString "tag:yaml.org,2002:bool"

def intTag : TagBytes :=
  TagBytes.ofString "tag:yaml.org,2002:int"

def floatTag : TagBytes :=
  TagBytes.ofString "tag:yaml.org,2002:float"

def nullTag : TagBytes :=
  TagBytes.ofString "tag:yaml.org,2002:null"

/-- Numbers beyond 64 bits are told apart by their width. -/
def foundInteger (n : Int) : Found :=
  if -(Int.pow 2 63) ≤ n ∧ n < Int.pow 2 64 then .integer n
  else if 0 ≤ n then .wideUnsigned n.toNat
  else .wideSigned n

def foundFloat (x : Number.Binary64) : Found :=
  .decimal (String.ofList (x.text floatStyle))

def foundText (text : List Char) : Found :=
  .text (String.ofList text)

def foundPlain (text : List Char) : Found :=
  match Value.ofPlain text with
  | .null => .unit
  | .boolean b => .boolean b
  | .integer n => foundInteger n
  | .decimal x => foundFloat x
  | .text => foundText text

/-- What is wrong with a scalar that is not of the expected type. A tag of a plain type must fit the text. -/
def scalarMismatch (tag : Option TagBytes) (text : List Char) (style : Style) (expected : String) :
    Mismatch :=
  let typed (found : Option Found) (kind : String) : Mismatch :=
    match found with
    | some found => .invalidType found expected
    | none => .invalidValue (foundText text) kind
  let untyped : Mismatch :=
    .invalidType (if style = .plain then foundPlain text else foundText text) expected
  match tag with
  | none => untyped
  | some tag =>
    if tag = boolTag then typed ((boolean? text).map .boolean) "a boolean"
    else if tag = intTag then typed ((integer? text).map foundInteger) "an integer"
    else if tag = floatTag then typed ((float? text).map foundFloat) "a float"
    else if tag = nullTag then typed (if isNullWord text then some .unit else none) "null"
    else if exclamation.isPrefixOf tag then untyped
    else .invalidType (foundText text) expected

/-- What is wrong with a node that is not of the expected type. -/
def mismatch (expected : String) : Node Nat → Mismatch
  | .scalar properties text style => scalarMismatch properties.tag text style expected
  | .sequence _ _ => .invalidType .sequence expected
  | .mapping _ _ | .alias _ _ => .invalidType .map expected

def isEmptyPlain : Node Nat → Bool
  | .scalar _ text style => text.isEmpty && style == .plain
  | _ => false

/-- The text of a tag when it is the document's own, without the mark that starts it; a tag that is nothing
but this mark keeps it. -/
def ownTag? (properties : Properties Nat) : Option String :=
  match properties.tag with
  | some (mark :: name) =>
    if [mark] = exclamation then
      (Text.readUtf8 (if name.isEmpty then exclamation else name)).map String.ofList
    else none
  | _ => none

variable (document : Document)

/-- Reads a value with `decode`, which sees aliases resolved; a mismatch is placed at the value. -/
def reading {α : Type} (decode : Node Nat → Except ReadFault α) (value : Located) : Except ReadFault α :=
  let node := document.resolve value.node
  (decode node).mapError (·.placedAt value.path node.mark)

def wrong {α : Type} (expected : String) (node : Node Nat) : Except ReadFault α :=
  .error { cause := mismatch expected node }

def textOf : Node Nat → Except ReadFault String
  | .scalar _ text _ => .ok (String.ofList text)
  | node => wrong "a string" node

/-- A number may be plain, or a literal scalar that is tagged as one. -/
def byteOf : Node Nat → Except ReadFault UInt8
  | .scalar properties text style =>
    let mayBeNumber := style = .plain ∨ (style = .literal ∧ properties.tag = some intTag)
    match if mayBeNumber then (unsigned? text).bind Number.word? else none with
    | some word =>
      match Number.byte? word.toNat with
      | some byte => .ok byte
      | none => .error { cause := .invalidValue (.integer word.toNat) "u8" }
    | none => wrong "u8" (.scalar properties text style)
  | node => wrong "u8" node

/-- Whether a value that may be left out is there. -/
def isGiven : Node Nat → Except ReadFault Bool
  | .scalar properties text style =>
    if style ≠ .plain then .ok true
    else match properties.tag with
      | some tag =>
        if tag ≠ nullTag then .ok true
        else if isNullWord text then .ok false
        else .error { cause := .invalidValue (foundText text) "null" }
      | none => .ok (!(text.isEmpty || isNullWord text))
  | _ => .ok true

def optionalTextOf (value : Located) : Except ReadFault (Option String) := do
  if ← isGiven (document.resolve value.node) then
    let text ← reading document textOf value
    pure (some text)
  else pure none

def numbered {α : Type} (items : List α) : List (Nat × α) :=
  (List.range items.length).zip items

def textsOf (value : Located) : Except ReadFault (List String) :=
  reading document (fun node =>
    match node with
    | .sequence _ items =>
      (numbered items).mapM fun (i, item) => reading document textOf ⟨value.path ++ [.item i], item⟩
    | node => if isEmptyPlain node then .ok [] else wrong "a sequence" node) value

/-- Content beside a tag must be empty. -/
def requireEmpty : Node Nat → Except ReadFault Unit
  | .scalar _ text style =>
    if style = .plain ∧ (text.isEmpty || isNullWord text) then .ok ()
    else .error { cause := .invalidValue (foundText text) "null" }
  | node => wrong "unit" node

def find {α : Type} (words : Json.Vocabulary α) (word : String) : Except ReadFault α :=
  (words.find word).mapError fun cause => { cause := cause }

/-- Places a mismatch at an alias, if it arose behind one. -/
def atAlias {α : Type} (value : Located) (result : Except ReadFault α) : Except ReadFault α :=
  match value.node with
  | .alias mark _ => result.mapError (·.placedAt value.path mark)
  | _ => result

/-- Reads a word, or a tag that is one. A tag that is no such word is placed at an alias, but not at the
value itself. -/
def choiceOf {α : Type} (words : Json.Vocabulary α) (value : Located) : Except ReadFault α :=
  let node := document.resolve value.node
  let tagged (word : String) : Except ReadFault α := do
    let choice ← atAlias value (find words word)
    reading document requireEmpty value
    pure choice
  let untagged := reading document (wrong "a YAML tag starting with '!'") value
  match node with
  | .scalar properties text _ =>
    match ownTag? properties with
    | some word => tagged word
    | none => reading document (fun _ => find words (String.ofList text)) value
  | .sequence properties _ | .mapping properties _ =>
    match ownTag? properties with
    | some word => tagged word
    | none => untagged
  | .alias _ _ => untagged

end Yaml

namespace DesiredState

open Yaml

def yamlReader (document : Document) : ValueReader Located ReadFault where
  text := reading document textOf
  optionalText := optionalTextOf document
  byte := reading document byteOf
  texts := textsOf document
  policy := choiceOf document PlacementPolicy.vocabulary
  presence := choiceOf document Presence.vocabulary

/-- The way to the value of a key. -/
def keyPath : Node Nat → List PathStep
  | .scalar _ text _ => [.field (String.ofList text)]
  | _ => [.unknown]

def keyName (key : Node Nat) : Except ReadFault String :=
  match key with
  | .scalar _ text _ => .ok (String.ofList text)
  | node => wrong "field identifier" node

def fieldOf (key : Node Nat) : Except ReadFault Field := do
  let name ← keyName key
  match Field.ofName? name with
  | some field => pure field
  | none => .error { cause := .unknownField name Field.knownNames }

/-- Reads one entry of the mapping. -/
def Draft.putEntry (document : Document) (draft : Draft) (entry : Node Nat × Node Nat) :
    Except ReadFault Draft := do
  let field ← reading document fieldOf ⟨[], entry.1⟩
  if draft.has field then .error { cause := .duplicateField field.name }
  else draft.put (yamlReader document) field ⟨keyPath entry.1, entry.2⟩

def ofEntries (document : Document) (entries : List (Node Nat × Node Nat)) :
    Except ReadFault DesiredState := do
  let draft ← entries.foldlM (Draft.putEntry document) {}
  draft.finish.mapError fun cause => { cause := cause }

def ofRoot (document : Document) : Node Nat → Except ReadFault DesiredState
  | .mapping _ entries => ofEntries document entries
  | node => if isEmptyPlain node then ofEntries document [] else wrong "struct DesiredState" node

/-- Reads a state from the text of a document; `complaint` words what is wrong with a text that is none. -/
def ofYaml (complaint : List Char → String) (text : List Char) : Except DocumentFault DesiredState :=
  match Document.read? text with
  | none => .error (.malformed (complaint text))
  | some document =>
    match reading document (ofRoot document) ⟨[], document.root⟩ with
    | .ok desired => .ok desired
    | .error fault =>
      let whole : Place := ⟨[], document.root.mark.position⟩
      .error (.mismatch ⟨fault.cause, fault.place.getD whole⟩)

end DesiredState

end LogicalVolumes
