import LogicalVolumes.Text.Numeral
import LogicalVolumes.Text.Quoted

/-!
Why a value, or a document, is not of the type that is expected. A mismatch in a document also has the path
of the value it arose in and its place in the text.
-/

namespace LogicalVolumes

/-- What stands where something else is expected. -/
inductive Found
  | null
  | unit
  | boolean (value : Bool)
  | integer (value : Int)
  | wideUnsigned (value : Nat)
  | wideSigned (value : Int)
  | decimal (text : String)
  | text (value : String)
  | sequence
  | map
  deriving DecidableEq

def written (n : Int) : String :=
  String.ofList (Text.signedNumeral n)

def ticked (word : String) : String :=
  "`" ++ word ++ "`"

def Found.describe : Found → String
  | .null => "null"
  | .unit => "unit value"
  | .boolean value => "boolean " ++ ticked (if value then "true" else "false")
  | .integer value => "integer " ++ ticked (written value)
  | .wideUnsigned value => "integer " ++ ticked (written value) ++ " as u128"
  | .wideSigned value => "integer " ++ ticked (written value) ++ " as i128"
  | .decimal digits => "floating point " ++ ticked digits
  | .text value => "string " ++ String.ofList (Text.quoted value.toList)
  | .sequence => "sequence"
  | .map => "map"

inductive Mismatch
  | unknownField (name : String) (known : List String)
  | duplicateField (name : String)
  | missingField (name : String)
  | unknownVariant (word : String) (known : List String)
  | invalidType (found : Found) (expected : String)
  | invalidValue (found : Found) (expected : String)
  | invalidLength (length : Nat) (expected : String)
  deriving DecidableEq

/-- The words that would have been right. -/
def oneOf : List String → String
  | [a] => ticked a
  | [a, b] => ticked a ++ " or " ++ ticked b
  | words => "one of " ++ ", ".intercalate (words.map ticked)

def Mismatch.message : Mismatch → String
  | .unknownField name known => "unknown field " ++ ticked name ++ ", expected " ++ oneOf known
  | .duplicateField name => "duplicate field " ++ ticked name
  | .missingField name => "missing field " ++ ticked name
  | .unknownVariant word known => "unknown variant " ++ ticked word ++ ", expected " ++ oneOf known
  | .invalidType found expected => "invalid type: " ++ found.describe ++ ", expected " ++ expected
  | .invalidValue found expected => "invalid value: " ++ found.describe ++ ", expected " ++ expected
  | .invalidLength length expected =>
    "invalid length " ++ written length ++ ", expected " ++ expected

/-- A place in a text, both numbers counted from zero. -/
structure Position where
  line : Nat
  column : Nat
  deriving DecidableEq

/-- One step from a value to one inside it. -/
inductive PathStep
  | field (name : String)
  | item (index : Nat)
  | unknown
  deriving DecidableEq

def PathStep.describe : PathStep → String
  | .field name => name
  | .item index => "[" ++ written index ++ "]"
  | .unknown => "?"

/-- Where a value stands: the way to it from the whole document, and its place in the text. -/
structure Place where
  path : List PathStep
  position : Position
  deriving DecidableEq

/-- A mismatch with the place where it arose. -/
structure PlacedMismatch where
  cause : Mismatch
  place : Place
  deriving DecidableEq

inductive DocumentFault
  /-- The text is no document; what the reader of documents says about it. -/
  | malformed (complaint : String)
  | mismatch (placed : PlacedMismatch)
  deriving DecidableEq

/-- The start of the text goes without saying. -/
def Position.describe (position : Position) : String :=
  if position.line = 0 ∧ position.column = 0 then ""
  else " at line " ++ written (position.line + 1) ++ " column "
    ++ written (position.column + 1)

def PlacedMismatch.message (placed : PlacedMismatch) : String :=
  let path := placed.place.path
  let way := if path.isEmpty then "" else String.join (path.map PathStep.describe) ++ ": "
  way ++ placed.cause.message ++ placed.place.position.describe

def DocumentFault.message : DocumentFault → String
  | .malformed complaint => complaint
  | .mismatch placed => placed.message

end LogicalVolumes
