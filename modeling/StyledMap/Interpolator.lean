import StyledMap.Scale

/-! # Interpolators

* `StopKind` is the type of a stop's output, read from JSON.
* `Outputs` are the outputs of stops: numbers, colors, or values of any types, which do not blend.
* `Interpolator` is a piecewise function: the positions of its stops and, apart from them, their
  outputs.
* `Interpolator.ofStops?` builds one when all outputs have one type: numbers and colors blend, all
  else steps.
* `Interpolator.stepping?` builds one that steps between outputs of any types.
* `Interpolator.evaluate?` is the output at an input; outside the stops it is that of the nearest
  end. Positions and outputs are read by index, and there is no output where an index is out of
  range.
-/

set_option autoImplicit false

namespace StyledMap

/-- The type of the output of a stop. -/
inductive StopKind
  | number
  | color
  | string
  | bool
  | other
  deriving DecidableEq, Repr

namespace StopKind

/-- The type of a JSON value; a string that is a color is one. -/
def ofJson (α : Type) [Arith α] : Json → StopKind
  | .number _ => number
  | .string s => if Color.isColor α s then color else string
  | .bool _ => bool
  | _ => other

end StopKind

/-! ## Outputs -/

/-- The outputs of stops. -/
inductive Outputs (α : Type)
  | numbers (xs : List α)
  | colors (cs : List (Color α))
  | values (vs : List (Value α))

namespace Outputs

variable {α : Type} [Arith α]

def length : Outputs α → Nat
  | numbers xs => xs.length
  | colors cs => cs.length
  | values vs => vs.length

def get? (outputs : Outputs α) (k : Nat) : Option (Value α) :=
  match outputs with
  | numbers xs => xs[k]?.map .number
  | colors cs => cs[k]?.map .color
  | values vs => vs[k]?

/-- The output at position `t` on the way from one index to another. -/
def blend? (outputs : Outputs α) (lower : Nat) (t : α) (upper : Nat) : Option (Value α) :=
  match outputs with
  | numbers xs => do return .number (Color.mix (← xs[lower]?) t (← xs[upper]?))
  | colors cs => do return .color ((← cs[lower]?).blend t (← cs[upper]?))
  | values vs => vs[lower]?

/-- Reads the outputs of stops of one type. An output of another type would be left out. -/
def ofStops (kind : StopKind) (stops : List (α × Json)) : Outputs α :=
  match kind with
  | .number => numbers (stops.filterMap fun stop => stop.2.asFloat?.map Arith.ofDouble)
  | .color => colors (stops.filterMap fun stop => stop.2.asString?.bind Color.parse?)
  | .string | .bool | .other => values (stops.map fun stop => Value.ofJson false stop.2)

end Outputs

/-! ## Building -/

/-- A piecewise function: stops in listed order, and how to move between them. -/
structure Interpolator (α : Type) where
  scale : Scale α
  positions : List α
  outputs : Outputs α

namespace Interpolator

variable {α : Type} [Arith α]

def scaleOf (kind : StopKind) (base : α) : Scale α :=
  match kind with
  | .number | .color => Scale.ofBase base
  | .string | .bool | .other => .step

def ofStops? (stops : List (α × Json)) (base : α) : Option (Interpolator α) :=
  match stops with
  | first :: _ :: _ =>
    let kind := StopKind.ofJson α first.2
    if stops.all fun stop => StopKind.ofJson α stop.2 == kind then
      some ⟨scaleOf kind base, stops.map Prod.fst, Outputs.ofStops kind stops⟩
    else none
  | _ => none

/-- The interpolator of at least two stops that steps; `colors` as in `Value.ofJson`. -/
def stepping? (colors : Bool) (stops : List (α × Json)) : Option (Interpolator α) :=
  match stops with
  | _ :: _ :: _ =>
    some ⟨.step, stops.map Prod.fst, .values (stops.map fun stop => Value.ofJson colors stop.2)⟩
  | _ => none

def toStepping (i : Interpolator α) : Interpolator α :=
  { i with scale := .step }

/-! ## Evaluating -/

/-- The output at an input between two stops. -/
def between? (i : Interpolator α) (lower : Nat) (x : α) (upper : Nat) : Option (Value α) := do
  let a ← i.positions[lower]?
  let b ← i.positions[upper]?
  match i.scale with
  | .step => i.outputs.get? lower
  | scale => i.outputs.blend? lower (scale.position a x b) upper

/-- The output at an input. An interpolator without stops has none to give. -/
def evaluate? (i : Interpolator α) (x : α) : Option (Value α) :=
  match locate? x i.positions with
  | none => none
  | some (.at k) => i.outputs.get? k
  | some (.between lower upper) => i.between? lower x upper

/-- The output at an input, with `null` in place of none. -/
def evaluate (i : Interpolator α) (x : α) : Value α :=
  (i.evaluate? x).getD .null

end Interpolator

end StyledMap
