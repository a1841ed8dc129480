import StyledMap.Double.Parts

/-! # Durations

A `Duration` counts whole seconds and nanoseconds. `Duration.ofSeconds?` rounds a number of
seconds to the nearest nanosecond, a tie going to the even one.
-/

set_option autoImplicit false

namespace StyledMap

/-- Whole seconds and nanoseconds, fewer than a second of them. -/
structure Duration where
  seconds : Nat
  nanoseconds : Nat
  deriving DecidableEq, Repr

namespace Duration

def ofWhole (seconds : Nat) : Duration := ⟨seconds, 0⟩

/-- The duration of a number of seconds, unless it is negative or does not fit 64 bits. -/
def ofSeconds? (x : Float) : Option Duration :=
  if x.isFinite = false ∨ x < 0.0 then none
  else
    let (num, den) := (Double.parts x).fraction
    let total := Double.roundQuotient .toEven (num * 10 ^ 9) den
    if total < 2 ^ 64 * 10 ^ 9 then some ⟨total / 10 ^ 9, total % 10 ^ 9⟩ else none

end Duration

end StyledMap
