import LogicalVolumes.Text.Numeral
import LogicalVolumes.Yaml.Scalar.Gap

/-!
Quoted scalars. Between single quotes a quote is written twice; between double quotes a backslash starts an
escape, or joins two lines.
-/

namespace LogicalVolumes.Yaml

inductive Quote
  | single
  | double
  deriving DecidableEq

def Quote.character : Quote → Char
  | .single => '\''
  | .double => '"'

/-- The characters that a backslash and one letter stand for. -/
def shortEscapes : List (Char × Char) :=
  [('0', '\x00'), ('a', '\x07'), ('b', '\x08'), ('t', '\t'), ('\t', '\t'), ('n', '\n'), ('v', '\x0b'),
    ('f', '\x0c'), ('r', '\r'), ('e', '\x1b'), (' ', ' '), ('"', '"'), ('/', '/'), ('\\', '\\'),
    ('N', '\u0085'), ('_', '\u00a0'), ('L', '\u2028'), ('P', '\u2029')]

/-- The letters after which a character's number stands, with the number of its digits. -/
def numberedEscapes : List (Char × Nat) :=
  [('x', 2), ('u', 4), ('U', 8)]

/-- The character of a number that is no surrogate and not out of range. -/
def numberedCharacter? (n : Nat) : Option Char :=
  if n < 0xD800 ∨ (0xE000 ≤ n ∧ n ≤ 0x10FFFF) then some (Char.ofNat n) else none

/-- Reads what stands behind a backslash: a character, and how many characters it takes to write. -/
def escape? : List Char → Option (Char × Nat)
  | [] => none
  | e :: s =>
    match shortEscapes.lookup e with
    | some c => some (c, 1)
    | none => do
      let width ← numberedEscapes.lookup e
      if s.length < width then none
      else
        let n ← Text.readDigits 16 0 (s.take width)
        let c ← numberedCharacter? n
        pure (c, width + 1)

/-- How a run without blanks ends. -/
inductive RunEnd
  | closed
  | joined
  | gap

/-- Reads characters and escapes up to the closing quote, a blank, a break or an escaped break. -/
def quotedRun? (quote : Quote) : Nat → List Char → Cursor → Option (List Char × RunEnd × Cursor)
  | 0, _, _ => none
  | fuel + 1, done, cursor =>
    match cursor.rest with
    | [] => some (done.reverse, .gap, cursor)
    | c :: s =>
      if isSpaceOrTab c || isBreak c then some (done.reverse, .gap, cursor)
      else if quote = .single ∧ c = '\'' ∧ s.head? = some '\'' then
        quotedRun? quote fuel ('\'' :: done) (cursor.advance 2)
      else if c = quote.character then some (done.reverse, .closed, cursor.advance 1)
      else if quote = .double ∧ c = '\\' then
        if !s.isEmpty && endsLine s then some (done.reverse, .joined, (cursor.advance 1).skipLineBreak)
        else do
          let (e, width) ← escape? s
          quotedRun? quote fuel (e :: done) (cursor.advance (width + 1))
      else quotedRun? quote fuel (c :: done) (cursor.advance 1)

/-- Reads runs and the gaps between them up to the closing quote. -/
def readQuoted (quote : Quote) : Nat → List Char → Cursor → Option (List Char × Cursor)
  | 0, _, _ => none
  | fuel + 1, text, cursor =>
    if cursor.atDocumentBoundary || cursor.rest.isEmpty then none
    else do
      let (run, ending, next) ← quotedRun? quote (cursor.rest.length + 1) [] cursor
      match ending with
      | .closed => pure (text ++ run, next)
      | .joined => do
        let (gap, next) ← Gap.extend 0 { broken := true } next.mark next.rest
        readQuoted quote fuel (text ++ run ++ gap.text) next
      | .gap => do
        let (gap, next) ← Gap.extend 0 {} next.mark next.rest
        readQuoted quote fuel (text ++ run ++ gap.text) next

/-- Reads a scalar from its opening quote to behind its closing one. -/
def quotedScalar? (quote : Quote) (cursor : Cursor) : Option (List Char × Cursor) :=
  readQuoted quote (cursor.rest.length + 1) [] (cursor.advance 1)

end LogicalVolumes.Yaml
