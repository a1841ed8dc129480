import StyledMap.Double.Parts

/-! # Decimal digits of a double

* `Digits` is a decimal magnitude `digits · 10 ^ exponent`.
* `leadingExponent` is the decimal exponent of the leading digit of a fraction.
* `shortest` gives the fewest digits that read back as the same double, the nearest such number
  when there are several. Two may be equally near, as `.2` and `.3` are to `2 ^ 50 + 0.25`; a
  `Tie` says which of them is meant.
* `significant` gives a fixed count of digits of the exact value, a tie going to the even digit.

A decimal reads back as a double exactly when it lies in the interval of numbers that round to
that double; the ends of the interval belong to it when the mantissa is even.
-/

set_option autoImplicit false

namespace StyledMap.Double

/-- The decimal magnitude `digits · 10 ^ exponent`. -/
structure Digits where
  digits : Nat
  exponent : Int
  deriving Repr, DecidableEq

/-- How many decimal digits a number has; zero has one. -/
def digitCount (n : Nat) : Nat :=
  (Nat.toDigits 10 n).length

/-- The exponent `e` with `10 ^ e ≤ num / den < 10 ^ (e + 1)`, for a positive fraction. -/
def leadingExponent (num den : Nat) : Int :=
  if den ≤ num then (digitCount (num / den) : Int) - 1
  else -(digitCount ((den + num - 1) / num - 1) : Int)

/-- The fraction `num / den` in units of `10 ^ exponent`. -/
def inUnits (num den : Nat) (exponent : Int) : Nat × Nat :=
  if 0 ≤ exponent then (num, den * 10 ^ exponent.toNat) else (num * 10 ^ (-exponent).toNat, den)

/-- Removes zeros at the end, as far as `fuel` of them. -/
def Digits.trim (d : Digits) : Nat → Digits
  | 0 => d
  | fuel + 1 =>
    if d.digits ≠ 0 ∧ d.digits % 10 = 0 then Digits.trim ⟨d.digits / 10, d.exponent + 1⟩ fuel else d

/-! ## Shortest digits -/

/-- The numbers that round to one double: `low / den` to `high / den` around `mid / den`. -/
structure Interval where
  low : Nat
  mid : Nat
  high : Nat
  den : Nat
  closed : Bool

/-- The interval that rounds to a magnitude: halfway to each neighbour. Below a power of two the
neighbour is half as far. -/
def Parts.interval (p : Parts) : Interval :=
  let below := if p.mantissa = 2 ^ 52 ∧ -1074 < p.exponent then 1 else 2
  let quarter : Parts := ⟨1, p.exponent - 2⟩
  let (up, den) := quarter.fraction
  ⟨(4 * p.mantissa - below) * up, 4 * p.mantissa * up, (4 * p.mantissa + 2) * up, den,
    p.mantissa % 2 = 0⟩

/-- The multiple of `10 ^ exponent` in the interval that is nearest to the middle, if one of the
two neighbours of the middle lies in the interval. -/
def Interval.nearest? (i : Interval) (tie : Tie) (exponent : Int) : Option Digits :=
  let (mid, den) := inUnits i.mid i.den exponent
  let (low, _) := inUnits i.low i.den exponent
  let (high, _) := inUnits i.high i.den exponent
  let inside := fun c => if i.closed then low ≤ c * den ∧ c * den ≤ high
    else low < c * den ∧ c * den < high
  let floor := mid / den
  match decide (inside floor), decide (inside (floor + 1)) with
  | true, true => some ⟨roundQuotient tie mid den, exponent⟩
  | true, false => some ⟨floor, exponent⟩
  | false, true => some ⟨floor + 1, exponent⟩
  | false, false => none

/-- The fewest digits that read back as the finite double `x`, without its sign. -/
def shortest (tie : Tie) (x : Float) : Digits :=
  let p := parts x
  if p.mantissa = 0 then ⟨0, 0⟩ else
    let i := p.interval
    let lead := leadingExponent i.mid i.den
    let found := (List.range 17).findSome? fun (n : Nat) => i.nearest? tie (lead - n)
    (found.getD ⟨i.mid / i.den, 0⟩).trim 17

/-! ## A fixed count of digits -/

/-- The `count` leading digits of the finite double `x`, without its sign, and the exponent of the
first of them. -/
def significant (count : Nat) (x : Float) : Nat × Int :=
  let (num, den) := (parts x).fraction
  if num = 0 then (0, 0) else
    let lead := leadingExponent num den
    let (scaled, unit) := inUnits num den (lead - count + 1)
    let digits := roundQuotient .toEven scaled unit
    if digits = 10 ^ count then (10 ^ (count - 1), lead + 1) else (digits, lead)

end StyledMap.Double
