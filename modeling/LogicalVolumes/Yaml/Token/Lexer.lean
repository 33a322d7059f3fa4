import LogicalVolumes.Yaml.Scalar.Block
import LogicalVolumes.Yaml.Scalar.Plain
import LogicalVolumes.Yaml.Scalar.Quoted
import LogicalVolumes.Yaml.Token.Property

/-!
Cutting a YAML text into tokens. Indentation gives the ends of block collections, and a colon makes a key of
the node before it: the token for the key goes in where that node starts.
-/

namespace LogicalVolumes.Yaml

/-- A node that may yet turn out to be a key. -/
structure PossibleKey where
  /-- How many tokens come before the node. -/
  before : Nat
  mark : Mark
  /-- Whether the node stands where there must be a key. -/
  required : Bool

structure Lexer where
  cursor : Cursor
  tokens : List Token := []
  /-- The column of the innermost block collection, and those around it; outside of all it is minus one. -/
  indent : Int := -1
  outerIndents : List Int := []
  /-- Whether a key may start here. -/
  keyAllowed : Bool := true
  /-- The possible key of the innermost flow collection, and those around it. -/
  possibleKey : Option PossibleKey := none
  outerKeys : List (Option PossibleKey) := []

namespace Lexer

def inFlow (lexer : Lexer) : Bool :=
  !lexer.outerKeys.isEmpty

def mark (lexer : Lexer) : Mark :=
  lexer.cursor.mark

def push (lexer : Lexer) (kind : TokenKind) (start stop : Mark) : Lexer :=
  { lexer with tokens := lexer.tokens ++ [⟨kind, start, stop⟩] }

/-- Puts a token without text behind the first `before` tokens. -/
def insertAt (lexer : Lexer) (before : Nat) (kind : TokenKind) (mark : Mark) : Lexer :=
  { lexer with tokens := lexer.tokens.take before ++ ⟨kind, mark, mark⟩ :: lexer.tokens.drop before }

def count (lexer : Lexer) : Nat :=
  lexer.tokens.length

/-- Ends the block collections that are indented further than `column`. -/
def unindent (column : Int) (lexer : Lexer) : Lexer :=
  if lexer.inFlow then lexer else go lexer.outerIndents lexer
where
  go : List Int → Lexer → Lexer
    | [], lexer => lexer
    | outer :: outers, lexer =>
      if column < lexer.indent then
        go outers { lexer.push .blockEnd lexer.mark lexer.mark with indent := outer, outerIndents := outers }
      else lexer

/-- Starts a block collection at `mark`, behind the first `before` tokens, if it is indented further than the
one around it. -/
def indentTo (kind : TokenKind) (before : Nat) (mark : Mark) (lexer : Lexer) : Lexer :=
  if lexer.inFlow || !(lexer.indent < mark.column) then lexer
  else
    { lexer.insertAt before kind mark with
      indent := mark.column, outerIndents := lexer.indent :: lexer.outerIndents }

/-- Gives up the possible key, which is refused where there must be one. -/
def dropKey (lexer : Lexer) : Option Lexer :=
  match lexer.possibleKey with
  | some key => if key.required then none else some { lexer with possibleKey := none }
  | none => some lexer

/-- Notes the node that starts here as a possible key. -/
def noteKey (lexer : Lexer) : Option Lexer :=
  if !lexer.keyAllowed then some lexer
  else do
    let lexer ← lexer.dropKey
    pure { lexer with possibleKey := some {
      before := lexer.count
      mark := lexer.mark
      required := !lexer.inFlow && lexer.indent == lexer.mark.column } }

/-- A key stands on one line and takes at most 1024 bytes. -/
def isStale (mark : Mark) (key : PossibleKey) : Bool :=
  key.mark.line < mark.line || key.mark.index + 1024 < mark.index

def dropStaleKey (mark : Mark) : Option PossibleKey → Option (Option PossibleKey)
  | some key => if isStale mark key then (if key.required then none else some none) else some (some key)
  | none => some none

def dropStaleKeys (lexer : Lexer) : Option Lexer := do
  let possibleKey ← dropStaleKey lexer.mark lexer.possibleKey
  let outerKeys ← lexer.outerKeys.mapM (dropStaleKey lexer.mark)
  pure { lexer with possibleKey := possibleKey, outerKeys := outerKeys }

/-- Passes blanks, comments and line breaks. A tab counts as a blank only where no key may start. -/
def skipToToken : Nat → Lexer → Lexer
  | 0, lexer => lexer
  | fuel + 1, lexer =>
    let start := if lexer.mark.column = 0 ∧ lexer.cursor.rest.head? = some '\ufeff' then
      lexer.cursor.advance 1 else lexer.cursor
    let cursor := start.skipWhile fun c =>
      c == ' ' || (c == '\t' && (lexer.inFlow || !lexer.keyAllowed))
    let cursor := cursor.skipComment
    if (lineBreak? cursor.rest).isSome then
      skipToToken fuel
        { lexer with cursor := cursor.skipLineBreak, keyAllowed := lexer.keyAllowed || !lexer.inFlow }
    else { lexer with cursor := cursor }

/-- Reads an indicator of `width` characters. -/
def indicator (kind : TokenKind) (width : Nat) (lexer : Lexer) : Lexer :=
  let next := lexer.cursor.advance width
  { lexer.push kind lexer.mark next.mark with cursor := next }

def streamEnd (lexer : Lexer) : Option Lexer := do
  let mark := lexer.mark
  let mark := if mark.column = 0 then mark else ⟨mark.index, mark.line + 1, 0⟩
  let lexer := { lexer with cursor := ⟨[], mark⟩ }
  let lexer ← (lexer.unindent (-1)).dropKey
  pure { lexer.push .streamEnd mark mark with keyAllowed := false }

def directive (lexer : Lexer) : Option Lexer := do
  let lexer ← (lexer.unindent (-1)).dropKey
  let (kind, next) ← directive? (lexer.cursor.advance 1)
  let cursor ← next.finishLine?
  pure { lexer.push kind lexer.mark next.mark with cursor := cursor, keyAllowed := false }

def documentBoundary (kind : TokenKind) (lexer : Lexer) : Option Lexer := do
  let lexer ← (lexer.unindent (-1)).dropKey
  pure { lexer.indicator kind 3 with keyAllowed := false }

def flowStart (kind : TokenKind) (lexer : Lexer) : Option Lexer := do
  let lexer ← lexer.noteKey
  let lexer := lexer.indicator kind 1
  pure { lexer with
    outerKeys := lexer.possibleKey :: lexer.outerKeys, possibleKey := none, keyAllowed := true }

def flowEnd (kind : TokenKind) (lexer : Lexer) : Option Lexer := do
  let lexer ← lexer.dropKey
  let lexer := { lexer.indicator kind 1 with keyAllowed := false }
  match lexer.outerKeys with
  | [] => pure lexer
  | key :: keys => pure { lexer with possibleKey := key, outerKeys := keys }

def flowEntry (lexer : Lexer) : Option Lexer := do
  let lexer ← lexer.dropKey
  pure { lexer.indicator .flowEntry 1 with keyAllowed := true }

def blockEntry (lexer : Lexer) : Option Lexer := do
  if !lexer.inFlow && !lexer.keyAllowed then none
  else
    let lexer ← (lexer.indentTo .blockSequenceStart lexer.count lexer.mark).dropKey
    pure { lexer.indicator .blockEntry 1 with keyAllowed := true }

def explicitKey (lexer : Lexer) : Option Lexer := do
  if !lexer.inFlow && !lexer.keyAllowed then none
  else
    let lexer ← (lexer.indentTo .blockMappingStart lexer.count lexer.mark).dropKey
    pure { lexer.indicator .key 1 with keyAllowed := !lexer.inFlow }

def value (lexer : Lexer) : Option Lexer :=
  match lexer.possibleKey with
  | some key =>
    let lexer := (lexer.insertAt key.before .key key.mark).indentTo .blockMappingStart key.before key.mark
    some { lexer.indicator .value 1 with possibleKey := none, keyAllowed := false }
  | none =>
    if !lexer.inFlow && !lexer.keyAllowed then none
    else
      let lexer := lexer.indentTo .blockMappingStart lexer.count lexer.mark
      some { lexer.indicator .value 1 with keyAllowed := !lexer.inFlow }

def anchorOrAlias (kind : String → TokenKind) (lexer : Lexer) : Option Lexer := do
  let lexer ← lexer.noteKey
  let (name, next) ← anchorName? (lexer.cursor.advance 1)
  pure { lexer.push (kind name) lexer.mark next.mark with cursor := next, keyAllowed := false }

def tag (lexer : Lexer) : Option Lexer := do
  let lexer ← lexer.noteKey
  let (kind, next) ← tagToken? lexer.inFlow lexer.cursor
  pure { lexer.push kind lexer.mark next.mark with cursor := next, keyAllowed := false }

def blockScalar (folded : Bool) (lexer : Lexer) : Option Lexer := do
  let lexer ← lexer.dropKey
  let scalar ← blockScalar? folded lexer.indent (lexer.cursor.advance 1)
  let kind := TokenKind.scalar scalar.text (if folded then .folded else .literal)
  pure { lexer.push kind lexer.mark scalar.stop with cursor := scalar.next, keyAllowed := true }

def quotedScalar (quote : Quote) (lexer : Lexer) : Option Lexer := do
  let lexer ← lexer.noteKey
  let (text, next) ← quotedScalar? quote lexer.cursor
  pure { lexer.push (.scalar text .quoted) lexer.mark next.mark with cursor := next, keyAllowed := false }

def plainScalar (lexer : Lexer) : Option Lexer := do
  let lexer ← lexer.noteKey
  let scalar ← plainScalar? lexer.inFlow (lexer.indent + 1).toNat lexer.cursor
  pure { lexer.push (.scalar scalar.text .plain) lexer.mark scalar.stop with
    cursor := scalar.next, keyAllowed := scalar.endedLine }

/-- Characters that start a plain scalar only before certain others, or never. -/
def isIndicator (c : Char) : Bool :=
  "-?:,[]\x7b\x7d#&*!|>'\"%@`".toList.contains c

/-- Whether a plain scalar can start with `c`, which `s` follows. -/
def startsPlain (flow : Bool) (c : Char) (s : List Char) : Bool :=
  !(isSpaceOrTab c || isBreak c || isIndicator c)
    || (c == '-' && !(s.head?.any isSpaceOrTab))
    || (!flow && (c == '?' || c == ':') && !endsWord s)

/-- Reads the token that starts with `c`, which `s` follows. -/
def readToken (c : Char) (s : List Char) (lexer : Lexer) : Option Lexer :=
  let flow := lexer.inFlow
  if lexer.mark.column = 0 ∧ c = '%' then lexer.directive
  else if lexer.cursor.atDocumentBoundary then
    lexer.documentBoundary (if c = '-' then .documentStart else .documentEnd)
  else if c = '[' then lexer.flowStart .flowSequenceStart
  else if c = '{' then lexer.flowStart .flowMappingStart
  else if c = ']' then lexer.flowEnd .flowSequenceEnd
  else if c = '}' then lexer.flowEnd .flowMappingEnd
  else if c = ',' then lexer.flowEntry
  else if c = '-' ∧ endsWord s then lexer.blockEntry
  else if c = '?' ∧ (flow || endsWord s) then lexer.explicitKey
  else if c = ':' ∧ (flow || endsWord s) then lexer.value
  else if c = '*' then lexer.anchorOrAlias .alias
  else if c = '&' then lexer.anchorOrAlias .anchor
  else if c = '!' then lexer.tag
  else if c = '|' ∧ !flow then lexer.blockScalar false
  else if c = '>' ∧ !flow then lexer.blockScalar true
  else if c = '\'' then lexer.quotedScalar .single
  else if c = '"' then lexer.quotedScalar .double
  else if startsPlain flow c s then lexer.plainScalar
  else none

/-- Reads tokens up to the end of the text. -/
def run : Nat → Lexer → Option Lexer
  | 0, _ => none
  | fuel + 1, lexer => do
    let lexer ← (lexer.skipToToken (lexer.cursor.rest.length + 1)).dropStaleKeys
    let lexer := lexer.unindent lexer.mark.column
    match lexer.cursor.rest with
    | [] => lexer.streamEnd
    | c :: s => do
      let lexer ← lexer.readToken c s
      run fuel lexer

end Lexer

/-- The tokens of a text whose characters are all allowed. -/
def tokens? (text : List Char) : Option (List Token) := do
  if text.all isAllowed then
    let lexer ← Lexer.run (text.length + 1) { cursor := ⟨text, {}⟩ }
    pure lexer.tokens
  else none

end LogicalVolumes.Yaml
