import StyledMap.Value

/-! # Scales and stops

* `Scale` says how the position of an input between two stops is measured.
* `locate?` finds where an input falls among the positions of stops in the order they are listed: at
  one end, or between two neighbours. Positions need not be sorted; the first one above the input
  decides.
-/

set_option autoImplicit false

namespace StyledMap

/-- How the position of an input between two stops is measured. -/
inductive Scale (α : Type)
  /-- In proportion to the distance. -/
  | linear
  /-- In proportion to powers of a base. -/
  | exponential (base : α)
  /-- Not at all: the lower stop counts until the upper one is reached. -/
  | step
  deriving Repr

namespace Scale

variable {α : Type} [Arith α]
open Arith

/-- The scale of a base; base one is linear. -/
def ofBase (base : α) : Scale α :=
  if base == one then linear else exponential base

/-- The position of `x` on the way from `a` to `b`; zero when they are equal. -/
def position (scale : Scale α) (a x b : α) : α :=
  if a == b then zero
  else
    match scale with
    | linear => (x - a) / (b - a)
    | exponential base => (pow base (x - a) - one) / (pow base (b - a) - one)
    | step => zero

end Scale

/-! ## Where an input falls -/

/-- Where an input falls among positions, by their indices: at one of the ends, or between two
neighbours. -/
inductive Place
  | at (index : Nat)
  | between (lower upper : Nat)
  deriving DecidableEq, Repr

/-- Where an input falls among positions, if there are any. -/
def locate? {α : Type} [Arith α] (x : α) (positions : List α) : Option Place :=
  match positions.findIdx? fun p => decide (x < p) with
  | some 0 => some (.at 0)
  | some (i + 1) => some (.between i (i + 1))
  | none => if positions.isEmpty then none else some (.at (positions.length - 1))

end StyledMap
