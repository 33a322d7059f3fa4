import LogicalVolumes.Text.Blank
import LogicalVolumes.Text.Word

/-!
What stands behind a label on a line of a report.
-/

namespace LogicalVolumes.Report

open LogicalVolumes.Text

/-- What follows `label`, if the text starts with it. -/
def after? : List Char → List Char → Option (List Char)
  | [], s => some s
  | _ :: _, [] => none
  | l :: label, c :: s => if l = c then after? label s else none

/-- What follows each occurrence of `label`, in their order. -/
def afterEach (label : List Char) : List Char → List (List Char)
  | [] => (after? label []).toList
  | c :: s => (after? label (c :: s)).toList ++ afterEach label s

/-- What follows the blanks that the text starts with; there is at least one. -/
def pastBlanks? : List Char → Option (List Char)
  | [] => none
  | c :: s => if isBlank c then some (trimStart s) else none

/-- The longest run of `p` that the text starts with, and the rest; the run is not empty. -/
def run? (p : Char → Bool) : List Char → Option (List Char × List Char)
  | [] => none
  | c :: s => if p c then some (c :: s.takeWhile p, s.dropWhile p) else none

/-- Blanks, then a run of `p`. -/
def spacedRun? (p : Char → Bool) (s : List Char) : Option (List Char × List Char) :=
  (pastBlanks? s).bind (run? p)

/-- The run of `p` behind the first `label` that has blanks and such a run after it. -/
def labelled? (p : Char → Bool) (label line : List Char) : Option (List Char) :=
  (afterEach label line).findSome? fun s => (spacedRun? p s).map (·.1)

/-- The digits behind the last opening bracket that has digits right after it. -/
def bracketed? (s : List Char) : Option (List Char) :=
  ((afterEach ['('] s).filterMap (run? isDigit)).getLast?.map (·.1)

/-- The bracketed digits behind the first `label`. -/
def labelledBracket? (label line : List Char) : Option (List Char) :=
  (afterEach label line).head?.bind bracketed?

end LogicalVolumes.Report
