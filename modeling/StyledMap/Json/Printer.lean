import StyledMap.Json.Basic
import StyledMap.Text.Hex
import StyledMap.Double.Text

/-! # Writing JSON

* `Json.text` is the compact text: no white space, doubles with the fewest digits.
* `Json.indented` puts every item and member on a line of its own, two spaces deeper than the
  bracket that holds it.

Strings escape only the quote, the backslash and the characters below the space.
-/

set_option autoImplicit false

namespace StyledMap

namespace Json

open Text

/-- A character inside a string. -/
def escape (c : Char) : List Char :=
  if c = '"' then ['\\', '"']
  else if c = '\\' then ['\\', '\\']
  else if c = '\x08' then ['\\', 'b']
  else if c = '\x0c' then ['\\', 'f']
  else if c = '\n' then ['\\', 'n']
  else if c = '\r' then ['\\', 'r']
  else if c = '\t' then ['\\', 't']
  else if c < ' ' then ['\\', 'u', '0', '0', hexDigit (c.toNat / 16), hexDigit c.toNat]
  else [c]

def quoted (s : String) : String :=
  "\"" ++ String.ofList (s.toList.flatMap escape) ++ "\""

def numberText : Number → String
  | .natural n => toString n.toNat
  | .negative n => toString n.toInt
  | .double x => Double.exchange x

mutual

def text : Json → String
  | .null => "null"
  | .bool true => "true"
  | .bool false => "false"
  | .number n => numberText n
  | .string s => quoted s
  | .array items => "[" ++ String.intercalate "," (itemTexts items) ++ "]"
  | .object members => "\x7b" ++ String.intercalate "," (memberTexts members) ++ "\x7d"

def itemTexts : List Json → List String
  | [] => []
  | v :: vs => text v :: itemTexts vs

def memberTexts : List (String × Json) → List String
  | [] => []
  | (k, v) :: vs => (quoted k ++ ":" ++ text v) :: memberTexts vs

end

def lineStart (level : Nat) : String :=
  "\n" ++ String.ofList (List.replicate (2 * level) ' ')

def bracketed (level : Nat) (opening closing : String) (lines : List String) : String :=
  if lines.isEmpty then opening ++ closing
  else
    opening ++ lineStart (level + 1) ++ String.intercalate ("," ++ lineStart (level + 1)) lines ++
      lineStart level ++ closing

mutual

def indented (level : Nat) : Json → String
  | .array items => bracketed level "[" "]" (indentedItems (level + 1) items)
  | .object members => bracketed level "\x7b" "\x7d" (indentedMembers (level + 1) members)
  | .null => "null"
  | .bool true => "true"
  | .bool false => "false"
  | .number n => numberText n
  | .string s => quoted s

def indentedItems (level : Nat) : List Json → List String
  | [] => []
  | v :: vs => indented level v :: indentedItems level vs

def indentedMembers (level : Nat) : List (String × Json) → List String
  | [] => []
  | (k, v) :: vs => (quoted k ++ ": " ++ indented level v) :: indentedMembers level vs

end

end Json

end StyledMap
