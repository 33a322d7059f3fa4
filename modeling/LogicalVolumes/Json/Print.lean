import LogicalVolumes.Json.Basic

/-!
JSON text on one line without blanks. In a string only quotes, backslashes and the controls below the space
are escaped.
-/

namespace LogicalVolumes.Json

open LogicalVolumes.Text LogicalVolumes.Number

def hexDigit (n : Nat) : Char :=
  Nat.digitChar (n % 16)

def escapeCharacter (c : Char) : List Char :=
  if c = '"' then ['\\', '"']
  else if c = '\\' then ['\\', '\\']
  else if c = '\n' then ['\\', 'n']
  else if c = '\r' then ['\\', 'r']
  else if c = '\t' then ['\\', 't']
  else if c = '\x08' then ['\\', 'b']
  else if c = '\x0c' then ['\\', 'f']
  else if c < ' ' then ['\\', 'u', '0', '0', hexDigit (c.toNat / 16), hexDigit c.toNat]
  else [c]

def textLiteral (s : List Char) : List Char :=
  '"' :: s.flatMap escapeCharacter ++ ['"']

/-- A point stands without an exponent from five zeros behind it to sixteen digits before it. -/
def floatStyle : FloatStyle :=
  ⟨fun point => -5 < point && point ≤ 16, .toEven⟩

mutual

def characters : Json → List Char
  | .null => ['n', 'u', 'l', 'l']
  | .boolean true => ['t', 'r', 'u', 'e']
  | .boolean false => ['f', 'a', 'l', 's', 'e']
  | .integer n => signedNumeral n
  | .decimal x => if x.isFinite then x.text floatStyle else ['n', 'u', 'l', 'l']
  | .text s => textLiteral s.toList
  | .list [] => ['[', ']']
  | .list (item :: items) => '[' :: characters item ++ itemCharacters items
  | .object [] => ['{', '}']
  | .object ((name, value) :: members) =>
    '{' :: textLiteral name.toList ++ ':' :: characters value ++ memberCharacters members

/-- The items after the first, and the closing bracket. -/
def itemCharacters : List Json → List Char
  | [] => [']']
  | item :: items => ',' :: characters item ++ itemCharacters items

/-- The members after the first, and the closing brace. -/
def memberCharacters : List (String × Json) → List Char
  | [] => ['}']
  | (name, value) :: members =>
    ',' :: textLiteral name.toList ++ ':' :: characters value ++ memberCharacters members

end

def compact (value : Json) : String :=
  String.ofList value.characters

end LogicalVolumes.Json
