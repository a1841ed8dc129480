import StyledMap.Text.Shapeless

/-! # Quoted text

`quoted` puts a text in quotes so that every character can be seen: quotes and backslashes are
escaped, and characters that have no shape of their own are written by number.
-/

set_option autoImplicit false

namespace StyledMap.Text

def quotedChar (c : Char) : List Char :=
  if c = '"' then ['\\', '"']
  else if c = '\\' then ['\\', '\\']
  else if c = '\n' then ['\\', 'n']
  else if c = '\r' then ['\\', 'r']
  else if c = '\t' then ['\\', 't']
  else if c = '\x00' then ['\\', '0']
  else if isShapeless c then ['\\', 'u', '\x7b'] ++ Nat.toDigits 16 c.toNat ++ ['\x7d']
  else [c]

def quoted (s : String) : String :=
  "\"" ++ String.ofList (s.toList.flatMap quotedChar) ++ "\""

end StyledMap.Text
