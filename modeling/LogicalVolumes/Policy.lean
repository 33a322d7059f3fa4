import LogicalVolumes.Misconfiguration
import LogicalVolumes.Text.Blank
import LogicalVolumes.Text.Lowercase

/-!
The allocation policy of a volume across physical volumes. A policy word is read in any letter case, blanks
around it aside.
-/

namespace LogicalVolumes

/-- `maximum` spreads partitions over as many physical volumes as it can, `minimum` over as few. -/
inductive PlacementPolicy
  | maximum
  | minimum
  deriving DecidableEq

def PlacementPolicy.word : PlacementPolicy → String
  | .maximum => "maximum"
  | .minimum => "minimum"

/-- The letter that stands for the policy on a command line. -/
def PlacementPolicy.flag : PlacementPolicy → String
  | .maximum => "x"
  | .minimum => "m"

def PlacementPolicy.ofWord? (word : String) : Option PlacementPolicy :=
  if word = "maximum" then some .maximum else if word = "minimum" then some .minimum else none

def PlacementPolicy.ofText (text : String) : Except Misconfiguration PlacementPolicy :=
  let word := String.ofList (Text.lowercase (Text.trim text.toList))
  match ofWord? word with
  | some policy => .ok policy
  | none => .error (.unknownPolicy word)

end LogicalVolumes
