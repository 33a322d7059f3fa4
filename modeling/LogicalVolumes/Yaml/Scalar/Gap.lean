import LogicalVolumes.Yaml.Cursor

/-!
The blanks and line breaks between two words of a scalar, and what is left of them when lines are joined:
blanks within a line stay, one line break becomes a space, and of more breaks all but the first stay.
-/

namespace LogicalVolumes.Yaml

structure Gap where
  /-- Blanks before any break. -/
  blanks : List Char := []
  /-- Whether a line ends in the gap. -/
  broken : Bool := false
  /-- The break that ends the first line, unless it is escaped. -/
  first : List Char := []
  more : List Char := []

namespace Gap

def text (gap : Gap) : List Char :=
  if !gap.broken then gap.blanks
  else if gap.first.head? = some '\n' then (if gap.more.isEmpty then [' '] else gap.more)
  else gap.first ++ gap.more

def addBlank (gap : Gap) (c : Char) : Gap :=
  if gap.broken then gap else { gap with blanks := gap.blanks ++ [c] }

def addBreak (gap : Gap) (c : Char) : Gap :=
  if gap.broken then { gap with more := gap.more ++ [c] }
  else { gap with blanks := [], broken := true, first := [c] }

/-- Reads on to the next word. After a break no tab may stand before column `indent`. -/
def extend (indent : Nat) (gap : Gap) (mark : Mark) : List Char → Option (Gap × Cursor)
  | [] => some (gap, ⟨[], mark⟩)
  | '\r' :: '\n' :: s => extend indent (gap.addBreak '\n') (mark.pastBreak ['\r', '\n']) s
  | c :: s =>
    if isSpaceOrTab c then
      if gap.broken ∧ c = '\t' ∧ mark.column < indent then none
      else extend indent (gap.addBlank c) (mark.past [c]) s
    else match lineBreak? (c :: s) with
      | some (_, b) => extend indent (gap.addBreak b) (mark.pastBreak [c]) s
      | none => some (gap, ⟨c :: s, mark⟩)

end Gap

end LogicalVolumes.Yaml
