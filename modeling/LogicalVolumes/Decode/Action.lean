import LogicalVolumes.Action
import LogicalVolumes.Decode.Facts

/-!
Actions as JSON. The member `kind` tells the action and `why` the reason for keeping things as they are; the
other members stand beside the tag. A list whose first item is the tag is read as well.
-/

namespace LogicalVolumes

open Json

namespace Json

/-- A tag, and the rest of the value that it was found in. -/
structure Tagged where
  tag : Json
  content : Json

def Tagged.ofJson (tagName title : String) : Json → Except Mismatch Tagged
  | .object members =>
    match members.lookup tagName with
    | none => .error (.missingField tagName)
    | some tag => .ok ⟨tag, .object (members.filter fun m => m.1 != tagName)⟩
  | .list [] => .error (.missingField tagName)
  | .list (tag :: items) => .ok ⟨tag, .list items⟩
  | value => value.mistyped ("internally tagged enum " ++ title)

/-- The variant that a tag names. A tag that was set aside may also give the variant's number. -/
def toVariant {α : Type} (words : Vocabulary α) (reading : Reading) : Json → Except Mismatch α
  | .text word => words.find word
  | .integer n =>
    if reading = .setAside ∧ 0 ≤ n then
      match (words.map (·.2))[n.toNat]? with
      | some value => .ok value
      | none => .error (.invalidValue (.integer n)
          ("variant index 0 <= i < " ++ written words.length))
    else (Json.integer n).mistyped "variant identifier"
  | value => value.mistyped "variant identifier"

def tooLongSequence (n : Nat) : String :=
  count n "element" ++ " in sequence"

/-- Content without fields: any members are passed over, and a list has no items. -/
def requireBare : Json → Except Mismatch Unit
  | .list (item :: items) => .error (.invalidLength (item :: items).length (tooLongSequence 0))
  | _ => .ok ()

end Json

namespace VolumeLayout

def shape : RecordShape where
  title := "struct VolumeLayout"
  fields := [field "size_megabytes" toWord, field "volume_type" toText, field "copies" toByte,
    field "policy" (PlacementPolicy.ofJson .setAside), field "options" toText,
    field "physical_volumes" toTexts]
  tooLong := tooLongSequence

def ofJson (value : Json) : Except Mismatch VolumeLayout := do
  let members ← shape.open value
  let size ← members.get "size_megabytes" toWord
  let volumeType ← members.get "volume_type" toText
  let copies ← members.get "copies" toByte
  let policy ← members.get "policy" (PlacementPolicy.ofJson .setAside)
  let options ← members.get "options" toText
  let physicalVolumes ← members.get "physical_volumes" toTexts
  pure { size, volumeType, copies, policy, options, physicalVolumes }

def members (layout : VolumeLayout) : Members :=
  [("size_megabytes", .word layout.size), ("volume_type", .text layout.volumeType),
    ("copies", .byte layout.copies), ("policy", layout.policy.toJson), ("options", .text layout.options),
    ("physical_volumes", .texts layout.physicalVolumes)]

end VolumeLayout

namespace KeepReason

inductive Tag
  | alreadyAbsent
  | alreadyExists
  | sizeMatches

def vocabulary : Vocabulary Tag :=
  [("already_absent", .alreadyAbsent), ("already_exists", .alreadyExists), ("size_matches", .sizeMatches)]

def sizeShape : RecordShape where
  title := "struct variant NoOpReason::SizeMatches"
  fields := [field "size_megabytes" toWord]
  tooLong := tooLongSequence

def ofJson (value : Json) : Except Mismatch KeepReason := do
  let tagged ← Tagged.ofJson "why" "NoOpReason" value
  match ← tagged.tag.toVariant vocabulary .setAside with
  | .alreadyAbsent =>
    tagged.content.requireBare
    pure .alreadyAbsent
  | .alreadyExists =>
    tagged.content.requireBare
    pure .alreadyExists
  | .sizeMatches =>
    let members ← sizeShape.open tagged.content
    let size ← members.get "size_megabytes" toWord
    pure (.sizeMatches size)

def toJson : KeepReason → Json
  | .alreadyAbsent => .object [("why", .text "already_absent")]
  | .alreadyExists => .object [("why", .text "already_exists")]
  | .sizeMatches size => .object [("why", .text "size_matches"), ("size_megabytes", .word size)]

end KeepReason

namespace Action

inductive Tag
  | keep
  | create
  | delete
  | resize
  | setPolicy

def vocabulary : Vocabulary Tag :=
  [("no_op", .keep), ("create", .create), ("delete", .delete), ("resize", .resize),
    ("change_policy", .setPolicy)]

def keepShape : RecordShape where
  title := "struct variant Action::NoOp"
  fields := [field "reason" KeepReason.ofJson]
  tooLong := tooLongSequence

def resizeShape : RecordShape where
  title := "struct variant Action::Resize"
  fields := [field "delta_megabytes" toWord, field "target_megabytes" toWord]
  tooLong := tooLongSequence

def policyShape : RecordShape where
  title := "struct variant Action::ChangePolicy"
  fields := [field "policy" (PlacementPolicy.ofJson .setAside)]
  tooLong := tooLongSequence

def ofJson (value : Json) : Except Mismatch Action := do
  let tagged ← Tagged.ofJson "kind" "Action" value
  match ← tagged.tag.toVariant vocabulary .direct with
  | .keep =>
    let members ← keepShape.open tagged.content
    let reason ← members.get "reason" KeepReason.ofJson
    pure (.keep reason)
  | .create =>
    let layout ← VolumeLayout.ofJson tagged.content
    pure (.change (.create layout))
  | .delete =>
    tagged.content.requireBare
    pure (.change .delete)
  | .resize =>
    let members ← resizeShape.open tagged.content
    let delta ← members.get "delta_megabytes" toWord
    let target ← members.get "target_megabytes" toWord
    pure (.change (.resize delta target))
  | .setPolicy =>
    let members ← policyShape.open tagged.content
    let policy ← members.get "policy" (PlacementPolicy.ofJson .setAside)
    pure (.change (.setPolicy policy))

def toJson : Action → Json
  | .keep reason => .object [("kind", .text "no_op"), ("reason", reason.toJson)]
  | .change (.create layout) => .object (("kind", .text "create") :: layout.members)
  | .change .delete => .object [("kind", .text "delete")]
  | .change (.resize delta target) =>
    .object [("kind", .text "resize"), ("delta_megabytes", .word delta), ("target_megabytes", .word target)]
  | .change (.setPolicy policy) => .object [("kind", .text "change_policy"), ("policy", policy.toJson)]

end Action

end LogicalVolumes
