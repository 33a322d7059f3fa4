import LogicalVolumes.Yaml.Cursor

/-!
The tokens of a YAML text.
-/

namespace LogicalVolumes.Yaml

inductive Style
  | plain
  | quoted
  | literal
  | folded
  deriving DecidableEq

/-- A tag, or a part of one, as the bytes that it spells. Escapes may spell bytes that are no text. -/
abbrev TagBytes := List UInt8

def TagBytes.ofString (text : String) : TagBytes :=
  text.toUTF8.toList

/-- The mark that a document's own tags start with. -/
def exclamation : TagBytes :=
  TagBytes.ofString "!"

/-- A tag as it is written: a handle, which a directive may define, and the rest. -/
structure WrittenTag where
  handle : String
  suffix : TagBytes
  deriving DecidableEq

inductive TokenKind
  | streamEnd
  | versionDirective (major minor : Nat)
  | tagDirective (handle : String) (expansion : TagBytes)
  | documentStart
  | documentEnd
  | blockSequenceStart
  | blockMappingStart
  | blockEnd
  | flowSequenceStart
  | flowSequenceEnd
  | flowMappingStart
  | flowMappingEnd
  | blockEntry
  | flowEntry
  | key
  | value
  | alias (name : String)
  | anchor (name : String)
  | tag (tag : WrittenTag)
  | scalar (text : List Char) (style : Style)
  deriving DecidableEq

structure Token where
  kind : TokenKind
  start : Mark
  stop : Mark

end LogicalVolumes.Yaml
