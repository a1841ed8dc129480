import StyledMap.Json.Basic
import StyledMap.Decimal

/-! # Number literals of JSON text

* `NumberLiteral` keeps a number as it is written, and `ExponentLiteral` its exponent.
* `NumberLiteral.toNumber?` reads it. A literal without a point and exponent that fits 64 bits is
  a whole number. Any other is a double made from the leading digits that fit 64 bits, scaled by
  one exact power of ten; digits that no longer fit count only by their place.
* `NumberLiteral.toDecimal` is the exact number that is written.
* `NumberLiteral.text` writes it back.

The scaled double can differ from the nearest one in its last digit, so the rule is kept apart
from `Decimal.toFloat`.
-/

set_option autoImplicit false

namespace StyledMap

/-- An exponent as written: its letter, its sign if there is one, and its digits. -/
structure ExponentLiteral where
  letter : Char
  sign : Option Char
  digits : List Char
  deriving Repr, DecidableEq

namespace ExponentLiteral

def isNegative (e : ExponentLiteral) : Bool :=
  e.sign == some '-'

def toInt (e : ExponentLiteral) : Int :=
  if e.isNegative then -(digitsValue e.digits : Int) else digitsValue e.digits

def text (e : ExponentLiteral) : List Char :=
  e.letter :: (e.sign.toList ++ e.digits)

end ExponentLiteral

/-- A number as written: its sign, the digits before the point, those after it, and its exponent. -/
structure NumberLiteral where
  negative : Bool
  whole : List Char
  part : Option (List Char)
  exponent : Option ExponentLiteral
  deriving Repr, DecidableEq

namespace NumberLiteral

/-- The leading digits that a 64-bit number holds, appended to `n`, and the digits left over. -/
def leadingDigits (n : Nat) : List Char → Nat × List Char
  | [] => (n, [])
  | c :: cs =>
    let next := 10 * n + (c.toNat - '0'.toNat)
    if next < 2 ^ 64 then leadingDigits next cs else (n, c :: cs)

/-- The double `10 ^ n`, for `n` up to 308. -/
def powerOfTen (n : Nat) : Float :=
  Float.ofScientific 1 false n

/-- The double `x · 10 ^ exponent`, by one product or by quotients of at most `10 ^ 308` each; none
if it is too large. The number of quotients is bounded by the first argument. -/
def scale? : Nat → Float → Int → Option Float
  | 0, x, _ => some x
  | rounds + 1, x, exponent =>
    if exponent.natAbs ≤ 308 then
      if 0 ≤ exponent then
        let y := x * powerOfTen exponent.natAbs
        if y.isInf then none else some y
      else some (x / powerOfTen exponent.natAbs)
    else if x == 0 then some x
    else if 0 ≤ exponent then none
    else scale? rounds (x / powerOfTen 308) (exponent + 308)

/-- The double of a significand and an exponent, with the sign of the literal. -/
def doubleOf? (negative : Bool) (significand : Nat) (exponent : Int) : Option Float :=
  (scale? (exponent.natAbs / 308 + 1) significand.toUInt64.toFloat exponent).map fun x =>
    if negative then -x else x

def exponentLimit : Nat := 2 ^ 31 - 1

/-- Reads a literal as a number; none if it is too large for a double. -/
def toNumber? (l : NumberLiteral) : Option Number :=
  let (whole, late) := leadingDigits 0 l.whole
  match l.part, l.exponent, late with
  | none, none, [] =>
    if l.negative = false then some (.natural whole.toUInt64)
    else if 0 < whole ∧ whole ≤ 2 ^ 63 then some (.negative (Int64.ofInt (-(whole : Int))))
    else some (.double (-whole.toUInt64.toFloat))
  | part, exponent, late =>
    let digits := part.getD []
    let (significand, lost) := leadingDigits whole digits
    let shift : Int := late.length - (digits.length - lost.length : Nat)
    match exponent with
    | none => (doubleOf? l.negative significand shift).map .double
    | some e =>
      if exponentLimit < e.toInt.natAbs then
        if significand ≠ 0 ∧ e.isNegative = false then none
        else some (.double (if l.negative then -0.0 else 0.0))
      else (doubleOf? l.negative significand (shift + e.toInt)).map .double

def toDecimal (l : NumberLiteral) : Decimal :=
  let digits := l.part.getD []
  let power : Int := match l.exponent with
    | none => 0
    | some e => e.toInt
  ⟨l.negative, digitsValue (l.whole ++ digits), power - digits.length⟩

def text (l : NumberLiteral) : String :=
  let part := match l.part with
    | none => []
    | some digits => '.' :: digits
  let exponent := match l.exponent with
    | none => []
    | some e => e.text
  String.ofList ((if l.negative then ['-'] else []) ++ l.whole ++ part ++ exponent)

end NumberLiteral

end StyledMap
