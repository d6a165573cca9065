import ProgramModel.Text.Hidden

/-!
Quoted text: a text between double quotes in which every character can be seen.
Six characters have a short escape, and a character that would not show is written
by its number in hexadecimal.
-/

namespace ProgramModel.Text

/-- The written form of one character inside quotes. A single quote stays as it is. -/
def escaped (c : Char) : List Char :=
  if c = '\x00' then ['\\', '0']
  else if c = '\t' then ['\\', 't']
  else if c = '\n' then ['\\', 'n']
  else if c = '\r' then ['\\', 'r']
  else if c = '"' then ['\\', '"']
  else if c = '\\' then ['\\', '\\']
  else if isHidden c then ['\\', 'u', '{'] ++ Nat.toDigits 16 c.toNat ++ ['}']
  else [c]

def quoted (s : String) : String :=
  String.ofList ('"' :: (s.toList.flatMap escaped ++ ['"']))

end ProgramModel.Text
