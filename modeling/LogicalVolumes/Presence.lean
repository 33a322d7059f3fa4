import LogicalVolumes.Misconfiguration
import LogicalVolumes.Text.Blank
import LogicalVolumes.Text.Lowercase

/-!
Whether a volume should exist.
-/

namespace LogicalVolumes

inductive Presence
  | present
  | absent
  deriving DecidableEq

def Presence.word : Presence → String
  | .present => "present"
  | .absent => "absent"

def Presence.ofWord? (word : String) : Option Presence :=
  if word = "present" then some .present else if word = "absent" then some .absent else none

def Presence.ofText (text : String) : Except Misconfiguration Presence :=
  let word := String.ofList (Text.lowercase (Text.trim text.toList))
  match ofWord? word with
  | some presence => .ok presence
  | none => .error (.unknownState word)

end LogicalVolumes
