import LogicalVolumes.Text.Visible

/-!
Text between double quotes, for messages. A quote, a backslash and the usual controls have a short escape;
any other character that is not visible is written by its code point.
-/

namespace LogicalVolumes.Text

def escaped (c : Char) : List Char :=
  if c = '\x00' then ['\\', '0']
  else if c = '\t' then ['\\', 't']
  else if c = '\r' then ['\\', 'r']
  else if c = '\n' then ['\\', 'n']
  else if c = '\\' then ['\\', '\\']
  else if c = '"' then ['\\', '"']
  else if isVisible c then [c]
  else ['\\', 'u', '{'] ++ Nat.toDigits 16 c.toNat ++ ['}']

def quoted (s : List Char) : List Char :=
  '"' :: s.flatMap escaped ++ ['"']

end LogicalVolumes.Text
