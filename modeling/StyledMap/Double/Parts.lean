/-! # Doubles as exact fractions

* `Parts` is a magnitude `mantissa · 2 ^ exponent`; `parts` decodes a finite double into one.
* `isNegative` is the sign bit, so it tells `-0.0` from `0.0`.
* `fraction` writes a magnitude as a quotient of two natural numbers.
* `valueBits` identifies doubles by value.
* `roundQuotient` rounds a quotient to the nearest natural number; a `Tie` says where a number
  halfway between two of them goes.
-/

set_option autoImplicit false

namespace StyledMap

/-- Powers of natural numbers are those of the core library, whatever else a module imports. -/
@[default_instance 20000]
instance (priority := 2000) instPowNatCore : Pow Nat Nat := instPowNat

namespace Double

/-- The magnitude `mantissa · 2 ^ exponent`. -/
structure Parts where
  mantissa : Nat
  exponent : Int
  deriving Repr, DecidableEq

def isNegative (x : Float) : Bool :=
  decide (2 ^ 63 ≤ x.toBits.toNat)

/-- The magnitude of a finite double. Subnormal numbers share the least exponent and have no
hidden bit. -/
def parts (x : Float) : Parts :=
  let bits := x.toBits.toNat
  let field : Nat := bits / 2 ^ 52 % 2 ^ 11
  let low : Nat := bits % 2 ^ 52
  if field = 0 then ⟨low, -1074⟩ else ⟨low + 2 ^ 52, Int.ofNat field - 1075⟩

def Parts.fraction (p : Parts) : Nat × Nat :=
  if 0 ≤ p.exponent then (p.mantissa * 2 ^ p.exponent.toNat, 1)
  else (p.mantissa, 2 ^ (-p.exponent).toNat)

/-- Where a number halfway between two natural numbers goes. -/
inductive Tie
  | toEven
  | away
  deriving DecidableEq, Repr

/-- Whether the number halfway between `low` and its successor goes up. -/
def Tie.isUp (tie : Tie) (low : Nat) : Bool :=
  match tie with
  | .toEven => low % 2 = 1
  | .away => true

/-- The natural number nearest to `num / den`. -/
def roundQuotient (tie : Tie) (num den : Nat) : Nat :=
  let low := num / den
  let twice := 2 * (num % den)
  if den < twice ∨ (twice = den ∧ tie.isUp low) then low + 1 else low

/-- The bits of a double, the same for both zeros: two doubles that are numbers are equal exactly
when these bits are. -/
def valueBits (x : Float) : UInt64 :=
  if x == 0 then 0 else x.toBits

def infinity : Float := 1.0 / 0.0

/-- The double that is no number. -/
def nan : Float := 0.0 / 0.0

end Double

end StyledMap
