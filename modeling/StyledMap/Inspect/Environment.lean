import StyledMap.Inspect.AssignedValue
import StyledMap.Text.Blank

/-! # Environments

* `Environment` gives names of variables their values.
* `Environment.lines` splits a text into lines; a line break in open quotes or after a backslash
  does not end a line.
* `Environment.extendedBy` adds the variables of a text with one `NAME=value` a line. Variables
  that are set already keep their values, and reading ends at the first line that is not of this
  form.
* `Environment.namesIn` is a list of names that such a text may speak of.
* `Environment.Unassignable` is why it fails: no variable can hold a null character. One that keeps
  its value is not touched, whatever the line says.

A line may be blank or a comment, and may begin with `export`.
-/

set_option autoImplicit false

namespace StyledMap

abbrev Environment := Table String

namespace Environment

/-! ## Lines -/

/-- What the next character of a line stands inside of. -/
inductive Quotation
  | plain
  | blank
  | escape
  | single
  | singleEscape
  | double
  | doubleEscape
  deriving DecidableEq, Repr

namespace Quotation

/-- What a character opens outside of quotes. -/
def opened (c : Char) : Quotation :=
  if c = '\\' then escape
  else if c = '"' then double
  else if c = '\'' then single
  else plain

/-- What follows a character; none where a comment begins. -/
def next? (q : Quotation) (c : Char) : Option Quotation :=
  match q with
  | plain => some (if Text.isBlank c && c ≠ '\n' && c ≠ '\r' then blank else opened c)
  | blank => if c = '#' then none else some (opened c)
  | escape => some plain
  | single => some (if c = '\\' then singleEscape else if c = '\'' then plain else single)
  | singleEscape => some single
  | double => some (if c = '\\' then doubleEscape else if c = '"' then plain else double)
  | doubleEscape => some double

end Quotation

def physicalLines : List Char → List (List Char)
  | [] => []
  | c :: cs =>
    if c = '\n' then [c] :: physicalLines cs
    else
      match physicalLines cs with
      | [] => [[c]]
      | line :: rest => (c :: line) :: rest

/-- The part of a line in front of a comment, and what the next line stands inside of; none after a
comment, which ends with its line. -/
def withoutComment (q : Quotation) : List Char → List Char × Option Quotation
  | [] => ([], some q)
  | c :: cs =>
    match q.next? c with
    | none => ([], none)
    | some next =>
      let (kept, last) := withoutComment next cs
      (c :: kept, last)

def skip (cs : List Char) : List Char :=
  cs.dropWhile Text.isBlank

def isComment (cs : List Char) : Bool :=
  (skip cs).head? == some '#'

/-- Joins lines that stay open to the lines behind them, and drops the last if it stays open. -/
def joined (front : List Char) (q : Quotation) : List (List Char) → List (List Char)
  | [] => []
  | line :: rest =>
    if isComment (front ++ line) then joined [] .plain rest
    else
      match withoutComment q line with
      | (kept, none) | (kept, some .plain) => (front ++ kept) :: joined [] .plain rest
      | (kept, some next) => joined (front ++ kept) next rest

/-- The lines of a text without comments. -/
def lines (cs : List Char) : List (List Char) :=
  joined [] .plain (physicalLines cs)

/-! ## Assignments -/

def isNameChar (c : Char) : Bool :=
  c.isAlphanum || c = '_' || c = '.'

def readName? (cs : List Char) : Option (String × List Char) :=
  match cs with
  | c :: _ =>
    if c.isAlpha ∨ c = '_' then
      let (name, rest) := cs.span isNameChar
      some (String.ofList name, skip rest)
    else none
  | [] => none

/-- Splits the name and the equals sign from the front of a line. The word `export` is a name itself
when an equals sign follows it. -/
def readAssigned? (cs : List Char) : Option (String × List Char) := do
  let (name, rest) ← readName? cs
  match rest with
  | '=' :: rest => return (name, skip rest)
  | rest =>
    if name = "export" then
      match ← readName? rest with
      | (name, '=' :: rest) => return (name, skip rest)
      | _ => none
    else none

/-- What a line says: nothing, or the value of a variable. None stands for a line of another form.
-/
def readLine? (env : Environment) (line : List Char) : Option (Option (String × String)) :=
  match Text.trimBlanks line with
  | [] => some none
  | line => do
    let (name, value) ← readAssigned? line
    match value with
    | [] | '#' :: _ => return some (name, "")
    | value => return some (name, ← AssignedValue.read? env value)

/-- Why a variable cannot be added: its value would hold a null character. -/
structure Unassignable where
  name : String
  value : String
  deriving DecidableEq, Repr

def Unassignable.message (u : Unassignable) : String :=
  s!"Failed to set environment variable {u.name}: the value contains a null character"

def isHoldable (value : String) : Bool :=
  !value.toList.contains '\x00'

/-- Gives a variable a value, unless it has one. -/
def assign (env : Environment) (name value : String) : Except Unassignable Environment :=
  if env.contains name then .ok env
  else if isHoldable value then .ok (env.insert name value)
  else .error ⟨name, value⟩

/-- Adds the variables of lines, up to the first line that is not of the form. -/
def extendedByLines (env : Environment) : List (List Char) → Except Unassignable Environment
  | [] => .ok env
  | line :: rest =>
    match readLine? env line with
    | none => .ok env
    | some none => extendedByLines env rest
    | some (some (name, value)) => do extendedByLines (← env.assign name value) rest

/-- Drops the mark that may stand in front of a text to tell its byte order. -/
def withoutMark : List Char → List Char
  | '\ufeff' :: cs => cs
  | cs => cs

def extendedBy (env : Environment) (text : String) : Except Unassignable Environment :=
  extendedByLines env (lines (withoutMark text.toList))

/-! ## Names -/

def isNameEnd (c : Char) : Bool :=
  c = '\x7b' || c = '\x7d' || c = '=' || c = '\x00'

/-- What a text may use as names of variables: assigned, after a dollar sign, or in braces. -/
def namesIn (text : String) : List String :=
  let pieces := fun separator => (Text.words separator text.toList).map String.ofList
  pieces (!isNameChar ·) ++ pieces (!Text.isAlphanumeric ·) ++ pieces isNameEnd

end Environment

end StyledMap
