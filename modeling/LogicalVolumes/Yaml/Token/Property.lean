import LogicalVolumes.Text.Numeral
import LogicalVolumes.Text.Utf8
import LogicalVolumes.Yaml.Token

/-!
Tags, anchors and directives as they are written.
-/

namespace LogicalVolumes.Yaml

def isUriCharacter (brackets : Bool) (c : Char) : Bool :=
  isNameCharacter c || ";/?:@&=+$.%!~*'()".toList.contains c || (brackets && ",[]".toList.contains c)

/-- The bytes of `n` escapes `%xx`. -/
def escapedBytes? : Nat → List Char → Option TagBytes
  | 0, _ => some []
  | n + 1, '%' :: a :: b :: s => do
    let byte ← Text.readDigits 16 0 [a, b]
    let bytes ← escapedBytes? n s
    pure (UInt8.ofNat byte :: bytes)
  | _ + 1, _ => none

/-- How many bytes a character has whose first byte is `lead`. -/
def escapedWidth? (lead : UInt8) : Option Nat :=
  if lead < 0x80 then some 1
  else if lead < 0xC0 then none
  else if lead < 0xE0 then some 2
  else if lead < 0xF0 then some 3
  else if lead < 0xF8 then some 4
  else none

/-- The bytes of the escapes for one character. Only their number and their highest bits are looked at, so
they may fail to be a character. -/
def escapedCharacter? (s : List Char) : Option TagBytes := do
  let first ← escapedBytes? 1 s
  let width ← escapedWidth? (← first.head?)
  let bytes ← escapedBytes? width s
  if (bytes.drop 1).all fun b => 0x80 ≤ b && b < 0xC0 then pure bytes else none

/-- Reads the bytes of a tag; `brackets` says whether commas and brackets may be among them. -/
def readUri (brackets : Bool) : Nat → TagBytes → Cursor → Option (TagBytes × Cursor)
  | 0, _, _ => none
  | fuel + 1, done, cursor =>
    match cursor.rest with
    | [] => some (done.reverse, cursor)
    | c :: s =>
      if !isUriCharacter brackets c then some (done.reverse, cursor)
      else if c = '%' then do
        let bytes ← escapedCharacter? (c :: s)
        readUri brackets fuel (bytes.reverse ++ done) (cursor.advance (3 * bytes.length))
      else readUri brackets fuel (UInt8.ofNat c.toNat :: done) (cursor.advance 1)

def uri? (brackets : Bool) (cursor : Cursor) : Option (TagBytes × Cursor) :=
  readUri brackets (cursor.rest.length + 1) [] cursor

/-- What is left of a part of a tag: a NUL ends it. -/
def TagBytes.beforeNul (bytes : TagBytes) : TagBytes :=
  bytes.takeWhile (· ≠ 0)

/-- Reads an exclamation mark and a name, with a second mark if there is one. -/
def handle? (cursor : Cursor) : Option (List Char × Cursor) :=
  match cursor.rest with
  | '!' :: s =>
    let name := s.takeWhile isNameCharacter
    match s.dropWhile isNameCharacter with
    | '!' :: _ => some ('!' :: name ++ ['!'], cursor.advance (name.length + 2))
    | _ => some ('!' :: name, cursor.advance (name.length + 1))
  | _ => none

def isWholeHandle (handle : List Char) : Bool :=
  2 ≤ handle.length && handle.getLast? == some '!'

/-- Reads a tag between angle brackets, or a handle and the rest. A lone exclamation mark has no handle. -/
def writtenTag? (cursor : Cursor) : Option (WrittenTag × Cursor) :=
  match cursor.rest with
  | '!' :: '<' :: _ => do
    let (name, cursor) ← uri? true (cursor.advance 2)
    match cursor.rest with
    | '>' :: _ => if name.isEmpty then none else pure (⟨"", name.beforeNul⟩, cursor.advance 1)
    | _ => none
  | _ => do
    let (handle, cursor) ← handle? cursor
    let (rest, cursor) ← uri? false cursor
    if isWholeHandle handle then
      if rest.isEmpty then none else pure (⟨String.ofList handle, rest.beforeNul⟩, cursor)
    else
      let suffix := TagBytes.beforeNul (TagBytes.ofString (String.ofList (handle.drop 1)) ++ rest)
      if suffix.isEmpty then pure (⟨"", exclamation⟩, cursor) else pure (⟨"!", suffix⟩, cursor)

/-- A tag ends at a blank, or in a flow collection at a comma. -/
def tagToken? (flow : Bool) (cursor : Cursor) : Option (TokenKind × Cursor) := do
  let (tag, next) ← writtenTag? cursor
  if endsWord next.rest || (flow && next.rest.head? == some ',') then pure (.tag tag, next) else none

/-- Reads the name of an anchor or an alias behind its indicator. -/
def anchorName? (cursor : Cursor) : Option (String × Cursor) :=
  let name := cursor.rest.takeWhile isNameCharacter
  let next := cursor.advance name.length
  let ends := endsWord next.rest || next.rest.head?.any ("?:,]\x7d%@`".toList.contains ·)
  if !name.isEmpty && ends then some (String.ofList name, next) else none

/-- Reads up to nine digits. -/
def versionNumber? (cursor : Cursor) : Option (Nat × Cursor) :=
  let digits := cursor.rest.takeWhile Text.isAsciiDigit
  if 9 < digits.length then none
  else (Text.readNatural 10 digits).map fun n => (n, cursor.advance digits.length)

def versionDirective? (cursor : Cursor) : Option (TokenKind × Cursor) := do
  let (major, cursor) ← versionNumber? (cursor.skipWhile isSpaceOrTab)
  match cursor.rest with
  | '.' :: _ => do
    let (minor, cursor) ← versionNumber? (cursor.advance 1)
    pure (.versionDirective major minor, cursor)
  | _ => none

def tagDirective? (cursor : Cursor) : Option (TokenKind × Cursor) := do
  let (handle, cursor) ← handle? (cursor.skipWhile isSpaceOrTab)
  if handle ≠ ['!'] ∧ !isWholeHandle handle then none
  else if !(cursor.rest.head?.any isSpaceOrTab) then none
  else
    let (expansion, cursor) ← uri? true (cursor.skipWhile isSpaceOrTab)
    if expansion.isEmpty || !endsWord cursor.rest then none
    else pure (.tagDirective (String.ofList handle) expansion.beforeNul, cursor)

/-- Reads a directive behind its indicator, up to where its line must end. -/
def directive? (cursor : Cursor) : Option (TokenKind × Cursor) :=
  let name := cursor.rest.takeWhile isNameCharacter
  let next := cursor.advance name.length
  if !endsWord next.rest then none
  else if name = "YAML".toList then versionDirective? next
  else if name = "TAG".toList then tagDirective? next
  else none

end LogicalVolumes.Yaml
