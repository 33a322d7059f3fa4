import LogicalVolumes.Decode.Mismatch

/-!
A place in a YAML text with what is left of it, and the classes of characters that YAML tells apart.
-/

namespace LogicalVolumes.Yaml

/-- A place in a text, counted in bytes of UTF-8 from the start of the text and in lines and columns. -/
structure Mark where
  index : Nat := 0
  line : Nat := 0
  column : Nat := 0
  deriving DecidableEq

def byteCount (s : List Char) : Nat :=
  s.foldr (fun c count => c.utf8Size + count) 0

/-- The place behind characters that are no line breaks. -/
def Mark.past (mark : Mark) (s : List Char) : Mark :=
  { mark with index := mark.index + byteCount s, column := mark.column + s.length }

/-- The place behind a line break. -/
def Mark.pastBreak (mark : Mark) (lineBreak : List Char) : Mark :=
  ⟨mark.index + byteCount lineBreak, mark.line + 1, 0⟩

def Mark.position (mark : Mark) : Position :=
  ⟨mark.line, mark.column⟩

structure Cursor where
  rest : List Char
  mark : Mark := {}

def isSpaceOrTab (c : Char) : Bool :=
  c == ' ' || c == '\t'

def isBreak (c : Char) : Bool :=
  c == '\n' || c == '\r' || c == '\u0085' || c == '\u2028' || c == '\u2029'

/-- A blank, a line break, or neither character at all. -/
def endsWord (s : List Char) : Bool :=
  match s with
  | [] => true
  | c :: _ => isSpaceOrTab c || isBreak c

/-- A line break or the end of the text. -/
def endsLine (s : List Char) : Bool :=
  match s with
  | [] => true
  | c :: _ => isBreak c

def isNameCharacter (c : Char) : Bool :=
  c.isAlphanum || c == '_' || c == '-'

/-- The characters that may stand in a text. -/
def isAllowed (c : Char) : Bool :=
  c == '\t' || c == '\n' || c == '\r' || c == '\u0085' || (' ' ≤ c && c ≤ '~')
    || ('\u00a0' ≤ c && c ≤ '\ufffd') || '\uffff' < c

/-- How wide the line break is that the text starts with, and what it stands for in a scalar: a line feed,
but the two separators of Unicode stand for themselves. -/
def lineBreak? : List Char → Option (Nat × Char)
  | '\r' :: '\n' :: _ => some (2, '\n')
  | c :: _ =>
    if c = '\u2028' ∨ c = '\u2029' then some (1, c) else if isBreak c then some (1, '\n') else none
  | [] => none

namespace Cursor

def advance (cursor : Cursor) (n : Nat) : Cursor :=
  ⟨cursor.rest.drop n, cursor.mark.past (cursor.rest.take n)⟩

/-- Passes a run of characters that are no line breaks. -/
def skipWhile (p : Char → Bool) (cursor : Cursor) : Cursor :=
  cursor.advance (cursor.rest.takeWhile p).length

def skipLineBreak (cursor : Cursor) : Cursor :=
  match lineBreak? cursor.rest with
  | none => cursor
  | some (width, _) => ⟨cursor.rest.drop width, cursor.mark.pastBreak (cursor.rest.take width)⟩

/-- Passes blanks and a comment, up to the end of the line. -/
def skipComment (cursor : Cursor) : Cursor :=
  match cursor.rest with
  | '#' :: _ => cursor.skipWhile fun c => !isBreak c
  | _ => cursor

/-- Passes what may stand at the end of a line, and the line break. -/
def finishLine? (cursor : Cursor) : Option Cursor :=
  let cursor := (cursor.skipWhile isSpaceOrTab).skipComment
  if endsLine cursor.rest then some cursor.skipLineBreak else none

/-- Whether `---` or `...` stands at the start of a line. -/
def atDocumentBoundary (cursor : Cursor) : Bool :=
  cursor.mark.column == 0 && match cursor.rest with
    | '-' :: '-' :: '-' :: s => endsWord s
    | '.' :: '.' :: '.' :: s => endsWord s
    | _ => false

end Cursor

end LogicalVolumes.Yaml
