import LogicalVolumes.Yaml.Scalar.Gap

/-!
Block scalars. A literal scalar keeps its line breaks; a folded one joins lines of text, but not lines that
start with a blank. The header says what becomes of the breaks at the end.
-/

namespace LogicalVolumes.Yaml

inductive Chomping
  | strip
  | clip
  | keep
  deriving DecidableEq

structure BlockHeader where
  chomping : Chomping := .clip
  /-- How far the text is indented beyond what is around it, if the header says so. -/
  increment : Option Nat := none

def chomping? (c : Char) : Option Chomping :=
  if c = '+' then some .keep else if c = '-' then some .strip else none

def increment? (c : Char) : Option Nat :=
  if '0' ≤ c ∧ c ≤ '9' then some (c.toNat - '0'.toNat) else none

/-- The header with as many characters as it takes; an indentation of zero is refused. -/
def blockHeader? (s : List Char) : Option (BlockHeader × Nat) :=
  let header : BlockHeader × Nat :=
    match s with
    | [] => ({}, 0)
    | a :: s =>
      match chomping? a, increment? a, s.head?.bind chomping?, s.head?.bind increment? with
      | some c, _, _, some n => (⟨c, some n⟩, 2)
      | some c, _, _, none => (⟨c, none⟩, 1)
      | none, some n, some c, _ => (⟨c, some n⟩, 2)
      | none, some n, none, _ => (⟨.clip, some n⟩, 1)
      | none, none, _, _ => ({}, 0)
  if header.1.increment = some 0 then none else some header

/-- The empty lines before a line of text. -/
structure EmptyLines where
  breaks : List Char := []
  /-- The place behind the last break. -/
  stop : Mark
  next : Cursor
  /-- The widest indentation that was passed. -/
  widest : Nat := 0

/-- Passes empty lines and the indentation of the line after them: up to column `indent`, or as far as there
are spaces. A tab may not stand where a space is looked for. -/
def emptyLines? (indent : Option Nat) : Nat → EmptyLines → Option EmptyLines
  | 0, _ => none
  | fuel + 1, lines =>
    let spaces := (lines.next.rest.takeWhile (· == ' ')).length
    let cursor := match indent with
      | none => lines.next.advance spaces
      | some n => lines.next.advance (min spaces (n - lines.next.mark.column))
    let lines := { lines with next := cursor, widest := max lines.widest cursor.mark.column }
    if (indent.all fun n => cursor.mark.column < n) && cursor.rest.head? == some '\t' then none
    else match lineBreak? cursor.rest with
      | none => some lines
      | some (_, b) =>
        let next := cursor.skipLineBreak
        emptyLines? indent fuel { lines with breaks := lines.breaks ++ [b], stop := next.mark, next := next }

/-- A block scalar as far as it has been read. -/
structure BlockText where
  text : List Char := []
  /-- The break that ended the last line of text. -/
  lastBreak : List Char := []
  /-- Whether that line started with a blank. -/
  startedBlank : Bool := false

/-- Adds a line of text that follows the empty lines `breaks`. -/
def BlockText.addLine (folded : Bool) (block : BlockText) (breaks line : List Char) : BlockText :=
  let blank := line.head?.any isSpaceOrTab
  let joined := folded && block.lastBreak.head? == some '\n' && !block.startedBlank && !blank
  let between := if joined then (if breaks.isEmpty then [' '] else []) else block.lastBreak
  { block with text := block.text ++ between ++ breaks ++ line, startedBlank := blank }

/-- Reads lines that are indented to column `indent`. -/
def readBlock (folded : Bool) (indent : Nat) :
    Nat → BlockText → EmptyLines → Option (BlockText × EmptyLines)
  | 0, _, _ => none
  | fuel + 1, block, lines =>
    if lines.next.mark.column ≠ indent ∨ lines.next.rest = [] then some (block, lines)
    else do
      let line := lines.next.rest.takeWhile fun c => !isBreak c
      let cursor := lines.next.advance line.length
      let block := block.addLine folded lines.breaks line
      let block := { block with lastBreak := ((lineBreak? cursor.rest).map (·.2)).toList }
      let next := cursor.skipLineBreak
      let lines ← emptyLines? (some indent) (next.rest.length + 1) { stop := next.mark, next := next }
      readBlock folded indent fuel block lines

structure BlockScalar where
  text : List Char
  stop : Mark
  next : Cursor

/-- Reads a scalar from behind its indicator on. The text around it is indented to column `outer`, which is
minus one outside of all collections. -/
def blockScalar? (folded : Bool) (outer : Int) (cursor : Cursor) : Option BlockScalar := do
  let (header, width) ← blockHeader? cursor.rest
  let cursor ← (cursor.advance width).finishLine?
  let given := header.increment.map fun n => (max outer 0).toNat + n
  let lines ← emptyLines? given (cursor.rest.length + 1) { stop := cursor.mark, next := cursor }
  let indent := given.getD (max lines.widest (max (outer + 1) 1).toNat)
  let (block, lines) ← readBlock folded indent (cursor.rest.length + 1) {} lines
  let ending := match header.chomping with
    | .strip => []
    | .clip => block.lastBreak
    | .keep => block.lastBreak ++ lines.breaks
  pure ⟨block.text ++ ending, lines.stop, lines.next⟩

end LogicalVolumes.Yaml
