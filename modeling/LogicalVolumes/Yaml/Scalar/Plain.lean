import LogicalVolumes.Yaml.Scalar.Gap

/-!
Plain scalars: words without quotes, which end at a comment, at a colon before a blank, at an indicator of
the flow collection around them, or at a line that is not indented far enough.
-/

namespace LogicalVolumes.Yaml

def isFlowIndicator (c : Char) : Bool :=
  c == ',' || c == '[' || c == ']' || c == '{' || c == '}'

/-- The word that the text starts with, and what follows it. In a flow collection a colon right before an
indicator is refused, as it could mean two things. -/
def plainWord? (flow : Bool) : List Char → Option (List Char × List Char)
  | [] => some ([], [])
  | c :: s =>
    if isSpaceOrTab c || isBreak c then some ([], c :: s)
    else if flow && c == ':' && (s.head?.any fun d => isFlowIndicator d || d == '?') then none
    else if c == ':' && endsWord s then some ([], c :: s)
    else if flow && isFlowIndicator c then some ([], c :: s)
    else (plainWord? flow s).map fun (word, rest) => (c :: word, rest)

/-- A scalar that has been read, with its end and the place where reading goes on. -/
structure PlainScalar where
  text : List Char
  stop : Mark
  next : Cursor
  /-- Whether the place where reading goes on is on another line. -/
  endedLine : Bool

/-- Reads the words from the cursor on. `gap` stands between them and the text that ended at `stop`. -/
def readPlain (flow : Bool) (indent : Nat) :
    Nat → List Char → Mark → Gap → Cursor → Option PlainScalar
  | 0, _, _, _, _ => none
  | fuel + 1, text, stop, gap, cursor =>
    if cursor.atDocumentBoundary || cursor.rest.head? == some '#' then some ⟨text, stop, cursor, gap.broken⟩
    else do
      let (word, rest) ← plainWord? flow cursor.rest
      if word.isEmpty then pure ⟨text, stop, cursor, gap.broken⟩
      else
        let text := text ++ gap.text ++ word
        let stop := cursor.mark.past word
        let (gap, next) ← Gap.extend indent {} stop rest
        if !rest.isEmpty && endsWord rest && (flow || indent ≤ next.mark.column) then
          readPlain flow indent fuel text stop gap next
        else pure ⟨text, stop, next, gap.broken⟩

def plainScalar? (flow : Bool) (indent : Nat) (cursor : Cursor) : Option PlainScalar :=
  readPlain flow indent (cursor.rest.length + 1) [] cursor.mark {} cursor

end LogicalVolumes.Yaml
