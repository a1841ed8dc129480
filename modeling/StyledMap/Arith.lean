import StyledMap.Decimal

/-! # The arithmetic that styles are evaluated in

* `Arith α` lists the operations that colors, stops and evaluators need of a number. Every
  definition above this module is written for any such `α`, so it can be run in doubles and
  reasoned about in an exact arithmetic.
* `clamp`, `wrap` and `nearestNat` are the derived operations: the nearest number in `[0, 1]`, the
  remainder that is not negative, and the nearest natural number.
* The instance on `Float` is the one that programs run.
-/

set_option autoImplicit false

namespace StyledMap

/-- An arithmetic with an order, powers and a reading of literals. Comparisons with a number that
is none are all false. -/
class Arith (α : Type) extends Add α, Sub α, Mul α, Div α, LT α, BEq α where
  /-- Comparison is decided. -/
  decideLT (x y : α) : Decidable (x < y)
  /-- A natural number as a number. -/
  nat : Nat → α
  /-- The number that a double denotes. -/
  ofDouble : Float → α
  /-- The number that a literal writes, unless it is too large to be finite. -/
  ofDecimal? : Decimal → Option α
  /-- The base raised to an exponent. -/
  pow : α → α → α
  /-- The remainder of the division by a positive natural number, with the sign of the dividend. -/
  remainder : α → Nat → α
  /-- The whole part of a number that is not negative, and zero of any other. -/
  floor : α → Nat

namespace Arith

attribute [reducible, instance] Arith.decideLT

variable {α : Type} [Arith α]

def zero : α := nat 0

def one : α := nat 1

/-- The number between zero and one that is nearest to `x`. -/
def clamp (x : α) : α :=
  if x < zero then zero else if one < x then one else x

/-- The remainder of the division by `n` that is not negative. -/
def wrap (x : α) (n : Nat) : α :=
  let r := remainder x n
  if r < zero then r + nat n else r

/-- The natural number nearest to a number that is not negative; a half rounds up. -/
def nearestNat (x : α) : Nat :=
  let low := floor x
  let part := x - nat low
  let half : α := one / nat 2
  if half < part ∨ part == half then low + 1 else low

/-- Whether `x` is a zero with a minus sign: it equals zero and its reciprocal is negative. -/
def isNegativeZero (x : α) : Bool :=
  x == zero && decide (one / x < zero)

/-- Whether `x` equals itself, which every number does. -/
def isNumber (x : α) : Bool :=
  x == x

end Arith

/-! ## Doubles -/

namespace Double

/-- The whole part of a finite double that is not negative, and zero of any other. -/
def wholePart (x : Float) : Nat :=
  if isNegative x ∨ x.isFinite = false then 0
  else
    let (num, den) := (parts x).fraction
    num / den

/-- The remainder of the division of a double by a positive natural number, with the sign of the
dividend. It is exact: below `n` it is the dividend, and otherwise its denominator is at most
`2 ^ 52`. -/
def remainder (x : Float) (n : Nat) : Float :=
  if x.isFinite = false then nan
  else
    let (num, den) := (parts x).fraction
    let magnitude :=
      if num < n * den then x.abs else Float.ofNat (num % (n * den)) / Float.ofNat den
    if isNegative x then -magnitude else magnitude

end Double

instance : Arith Float where
  decideLT := Float.decLt
  nat := Float.ofNat
  ofDouble := fun x => x
  ofDecimal? := Decimal.toFinite?
  pow := Float.pow
  remainder := Double.remainder
  floor := Double.wholePart

end StyledMap
