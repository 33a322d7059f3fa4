import LogicalVolumes.Text.Blank

/-!
The lines of a text. A line ends at a line feed, together with one carriage return right before it; what
follows the last line feed is a line unless it is empty.
-/

namespace LogicalVolumes.Text

def dropReturn (line : List Char) : List Char :=
  if line.getLast? = some '\r' then line.dropLast else line

/-- The lines of a text, from its pieces between line feeds. -/
def endedLines : List (List Char) → List (List Char)
  | [] => []
  | [rest] => if rest.isEmpty then [] else [rest]
  | line :: more => dropReturn line :: endedLines more

def lines (s : List Char) : List (List Char) :=
  endedLines (pieces (· == '\n') s)

end LogicalVolumes.Text
