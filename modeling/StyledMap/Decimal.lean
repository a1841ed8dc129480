import StyledMap.Double.Digits

/-! # Decimal literals

* `Decimal` is a literal `± digits · 10 ^ exponent`.
* `Decimal.ofChars?` reads one: an optional sign, digits with at most one point among or beside
  them, and an optional exponent.
* `Decimal.toFloat` is the nearest double, infinite beyond the largest one.
* `floatOfText?` also knows the words for infinity and for the double that is no number.
-/

set_option autoImplicit false

namespace StyledMap

/-- The literal `± digits · 10 ^ exponent`. -/
structure Decimal where
  negative : Bool
  digits : Nat
  exponent : Int
  deriving Repr, DecidableEq

def digitsValue (cs : List Char) : Nat :=
  cs.foldl (fun n c => 10 * n + (c.toNat - '0'.toNat)) 0

/-- Splits an optional sign from the front; true stands for a minus. -/
def takeSign : List Char → Bool × List Char
  | '-' :: cs => (true, cs)
  | '+' :: cs => (false, cs)
  | cs => (false, cs)

namespace Decimal

/-- The exponent part of a literal, which may be absent. -/
def exponentOfChars? : List Char → Option Int
  | [] => some 0
  | c :: cs =>
    if c = 'e' ∨ c = 'E' then
      let (negative, digits) := takeSign cs
      if digits ≠ [] ∧ digits.all Char.isDigit then
        some (if negative then -(digitsValue digits : Int) else digitsValue digits)
      else none
    else none

def ofChars? (cs : List Char) : Option Decimal :=
  let (negative, body) := takeSign cs
  let (whole, rest) := body.span Char.isDigit
  let (part, rest) := match rest with
    | '.' :: after => after.span Char.isDigit
    | _ => ([], rest)
  if whole = [] ∧ part = [] then none
  else
    (exponentOfChars? rest).map fun exponent =>
      ⟨negative, digitsValue (whole ++ part), exponent - part.length⟩

/-- The nearest double, a tie going to the even one. Magnitudes far outside the range of doubles
are settled by their size. -/
def toFloat (d : Decimal) : Float :=
  let size := d.exponent + Double.digitCount d.digits
  let magnitude :=
    if d.digits = 0 ∨ size < -400 then 0.0
    else if 400 < size then Double.infinity
    else Float.ofScientific d.digits (d.exponent < 0) d.exponent.natAbs
  if d.negative then -magnitude else magnitude

/-- The nearest double, unless it is infinite. -/
def toFinite? (d : Decimal) : Option Float :=
  let x := d.toFloat
  if x.isFinite then some x else none

end Decimal

/-- Reads a double from a whole text: a literal, or `inf`, `infinity` or `nan` in any case, with an
optional sign. -/
def floatOfText? (text : String) : Option Float :=
  let cs := text.toList
  match Decimal.ofChars? cs with
  | some d => some d.toFloat
  | none =>
    let (negative, word) := takeSign cs
    let word := String.ofList (word.map Char.toLower)
    if word = "inf" ∨ word = "infinity" then
      some (if negative then -Double.infinity else Double.infinity)
    else if word = "nan" then some Double.nan
    else none

end StyledMap
