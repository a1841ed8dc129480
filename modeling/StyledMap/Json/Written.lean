import StyledMap.Json.Literal
import StyledMap.Text.Hex

/-! # JSON text

* `Written` is a text as it stands: repeated keys are kept, numbers are literals, and a string that
  holds an unpaired surrogate escape has no content.
* `Written.parse?` reads a whole text.
* `Written.toJson?` turns it into a value: nesting is limited, the last entry of a key stays, and
  every string and number must have a value.
* `Json.parse?` does both with the limit of 127 levels.
-/

set_option autoImplicit false

namespace StyledMap

/-- A JSON text as it stands. -/
inductive Written
  | null
  | bool (b : Bool)
  | number (l : NumberLiteral)
  | string (content : Option String)
  | array (items : List Written)
  | object (entries : List (Option String × Written))

namespace Written

open Text

/-! ## Characters -/

def skip (cs : List Char) : List Char :=
  cs.dropWhile fun c => c = ' ' || c = '\n' || c = '\t' || c = '\r'

def hexUnit? (a b c d : Char) : Option Nat := do
  return (((← hexDigit? a) * 16 + (← hexDigit? b)) * 16 + (← hexDigit? c)) * 16 + (← hexDigit? d)

def escaped? : Char → Option Char
  | '"' => some '"'
  | '\\' => some '\\'
  | '/' => some '/'
  | 'b' => some '\x08'
  | 'f' => some '\x0c'
  | 'n' => some '\n'
  | 'r' => some '\r'
  | 't' => some '\t'
  | _ => none

/-- Whether a 16-bit unit is the first or the second half of a surrogate pair. -/
def isHighSurrogate (n : Nat) : Bool := 0xD800 ≤ n && n < 0xDC00

@[inherit_doc isHighSurrogate]
def isLowSurrogate (n : Nat) : Bool := 0xDC00 ≤ n && n < 0xE000

def lowSurrogate? : List Char → Option Nat
  | '\\' :: 'u' :: a :: b :: c :: d :: _ =>
    (hexUnit? a b c d).bind fun n => if isLowSurrogate n then some n else none
  | _ => none

/-- Reads a string after its opening quote. The characters read so far are held in reverse;
`valid` turns false at an unpaired surrogate. The first argument bounds the characters read. -/
def readString (valid : Bool) (read : List Char) :
    Nat → List Char → Option (Option String × List Char)
  | 0, _ => none
  | fuel + 1, cs =>
    match cs with
    | [] => none
    | '"' :: rest => some (if valid then some (String.ofList read.reverse) else none, rest)
    | '\\' :: 'u' :: a :: b :: c :: d :: rest =>
      match hexUnit? a b c d with
      | none => none
      | some n =>
        if isHighSurrogate n then
          match lowSurrogate? rest with
          | some m =>
            readString valid (Char.ofNat (0x10000 + (n - 0xD800) * 0x400 + (m - 0xDC00)) :: read)
              fuel (rest.drop 6)
          | none => readString false read fuel rest
        else if isLowSurrogate n then readString false read fuel rest
        else readString valid (Char.ofNat n :: read) fuel rest
    | '\\' :: c :: rest =>
      match escaped? c with
      | some e => readString valid (e :: read) fuel rest
      | none => none
    | c :: rest => if c < ' ' then none else readString valid (c :: read) fuel rest

/-- The digits at the front of a text, if there are any. -/
def readDigits (cs : List Char) : Option (List Char × List Char) :=
  let (digits, rest) := cs.span Char.isDigit
  if digits.isEmpty then none else some (digits, rest)

/-- Splits an optional sign from the front. -/
def readSign : List Char → Option Char × List Char
  | '-' :: rest => (some '-', rest)
  | '+' :: rest => (some '+', rest)
  | rest => (none, rest)

def readExponent (cs : List Char) : Option (Option ExponentLiteral × List Char) :=
  match cs with
  | c :: rest =>
    if c = 'e' ∨ c = 'E' then
      let (sign, rest) := readSign rest
      (readDigits rest).map fun (digits, rest) => (some ⟨c, sign, digits⟩, rest)
    else some (none, cs)
  | [] => some (none, [])

/-- Reads a number. A zero in front stands alone. -/
def readNumber (cs : List Char) : Option (NumberLiteral × List Char) := do
  let (negative, cs) := match cs with
    | '-' :: rest => (true, rest)
    | _ => (false, cs)
  let (whole, cs) ← match cs with
    | '0' :: rest => some (['0'], rest)
    | _ => readDigits cs
  let (part, cs) ← match cs with
    | '.' :: rest => (readDigits rest).map fun (digits, rest) => (some digits, rest)
    | _ => some (none, cs)
  let (exponent, cs) ← readExponent cs
  return (⟨negative, whole, part, exponent⟩, cs)

/-! ## Values -/

mutual

/-- Reads a value. Every character is looked at by at most two nested calls, so twice the length of
the text bounds their depth. -/
def readValue : Nat → List Char → Option (Written × List Char)
  | 0, _ => none
  | fuel + 1, cs =>
    match skip cs with
    | 'n' :: 'u' :: 'l' :: 'l' :: rest => some (.null, rest)
    | 't' :: 'r' :: 'u' :: 'e' :: rest => some (.bool true, rest)
    | 'f' :: 'a' :: 'l' :: 's' :: 'e' :: rest => some (.bool false, rest)
    | '"' :: rest =>
      (readString true [] (rest.length + 1) rest).map fun (s, rest) => (.string s, rest)
    | '[' :: rest =>
      match skip rest with
      | ']' :: rest => some (.array [], rest)
      | rest => (readItems fuel rest).map fun (items, rest) => (.array items, rest)
    | '\x7b' :: rest =>
      match skip rest with
      | '\x7d' :: rest => some (.object [], rest)
      | rest => (readEntries fuel rest).map fun (entries, rest) => (.object entries, rest)
    | cs => (readNumber cs).map fun (l, rest) => (.number l, rest)

def readItems : Nat → List Char → Option (List Written × List Char)
  | 0, _ => none
  | fuel + 1, cs =>
    match readValue fuel cs with
    | none => none
    | some (item, rest) =>
      match skip rest with
      | ']' :: rest => some ([item], rest)
      | ',' :: rest => (readItems fuel rest).map fun (items, rest) => (item :: items, rest)
      | _ => none

def readEntries : Nat → List Char → Option (List (Option String × Written) × List Char)
  | 0, _ => none
  | fuel + 1, cs =>
    match skip cs with
    | '"' :: rest =>
      match readString true [] (rest.length + 1) rest with
      | none => none
      | some (key, rest) =>
        match skip rest with
        | ':' :: rest =>
          match readValue fuel rest with
          | none => none
          | some (value, rest) =>
            match skip rest with
            | '\x7d' :: rest => some ([(key, value)], rest)
            | ',' :: rest =>
              (readEntries fuel rest).map fun (entries, rest) => ((key, value) :: entries, rest)
            | _ => none
        | _ => none
    | _ => none

end

def parse? (text : String) : Option Written :=
  let cs := text.toList
  match readValue (2 * cs.length + 2) cs with
  | some (value, rest) => if (skip rest).isEmpty then some value else none
  | none => none

/-! ## Values of texts -/

mutual

/-- The value of a text with at most `depth` levels of arrays and objects. -/
def toJson? (depth : Nat) : Written → Option Json
  | .null => some .null
  | .bool b => some (.bool b)
  | .number l => l.toNumber?.map .number
  | .string s => s.map .string
  | .array items => if depth = 0 then none else (itemsToJson? (depth - 1) items).map .array
  | .object entries =>
    if depth = 0 then none
    else (entriesToJson? (depth - 1) entries).map fun es => .object (Table.ofList es)

def itemsToJson? (depth : Nat) : List Written → Option (List Json)
  | [] => some []
  | w :: ws =>
    match toJson? depth w with
    | none => none
    | some v => (itemsToJson? depth ws).map (v :: ·)

/-- The entries of an object in text order. -/
def entriesToJson? (depth : Nat) : List (Option String × Written) → Option (List (String × Json))
  | [] => some []
  | (key, w) :: ws =>
    match key, toJson? depth w with
    | some k, some v => (entriesToJson? depth ws).map ((k, v) :: ·)
    | _, _ => none

end

def depthLimit : Nat := 127

def occurrences (key : String) (entries : List (Option String × Written)) : Nat :=
  entries.countP fun entry => entry.1 == some key

end Written

def Json.parse? (text : String) : Option Json :=
  (Written.parse? text).bind (Written.toJson? Written.depthLimit)

end StyledMap
