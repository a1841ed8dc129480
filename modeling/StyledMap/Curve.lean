import StyledMap.Declaration
import StyledMap.Feature
import StyledMap.Interpolator

/-! # Curves

* `Category` is an input that a categorical function can look up: numbers count by value, whole or
  not, and both zeros are one category.
* `Curve` maps one input to an output.
* `Curve.lookup?` gives the output for a feature value, or a fallback where the curve has no output
  for it. None stands for an interpolator that reads out of range.
-/

set_option autoImplicit false

namespace StyledMap

/-- An input that a categorical function can look up. -/
inductive Category
  | text (s : String)
  | number (bits : UInt64)
  | bool (b : Bool)
  deriving DecidableEq, Repr

namespace Category

/-- The category of a JSON value; `null`, arrays and objects have none. -/
def ofJson? : Json → Option Category
  | .string s => some (text s)
  | .number n => some (number (Double.valueBits n.toFloat))
  | .bool b => some (bool b)
  | _ => none

end Category

/-- How an input maps to an output. -/
inductive Curve (α : Type)
  /-- A number, through an interpolator. -/
  | interpolated (i : Interpolator α)
  /-- An exact match; of equal categories the first in the list counts. -/
  | categorical (outputs : List (Category × Value α))
  /-- The input itself; with `colors`, strings that are colors become colors. -/
  | identity (colors : Bool)
  /-- The same output for every input. -/
  | constant (value : Value α)
  /-- No output. -/
  | fallback

namespace Curve

variable {α : Type} [Arith α]

def name : Curve α → String
  | interpolated _ => "interpolated"
  | categorical _ => "categorical"
  | identity _ => "identity"
  | constant _ => "constant"
  | fallback => "fallback"

/-! ## Building -/

/-- The interpolator of at least two stops: one that blends when it can, else one that steps. -/
def interpolatorOf? (colors : Bool) (base : α) (stops : List (α × Json)) :
    Option (Interpolator α) :=
  match Interpolator.ofStops? stops base with
  | some i => some i
  | none => Interpolator.stepping? colors stops

/-- The curve of numeric stops. One stop is a constant. -/
def ofNumericStops (colors : Bool) (base : α) (kind : FunctionKind) :
    List (α × Json) → Curve α
  | [] => fallback
  | [stop] => constant (Value.ofJson colors stop.2)
  | stops =>
    match interpolatorOf? colors base stops with
    | none => fallback
    | some i => interpolated (if kind = .interval then i.toStepping else i)

/-- The curve that looks inputs up. Later stops come first, so that the last stop of a category
counts. -/
def ofCategories (colors : Bool) (stops : List (Json × Json)) : Curve α :=
  categorical (stops.filterMap fun stop =>
    (Category.ofJson? stop.1).map fun category => (category, Value.ofJson colors stop.2)).reverse

def numericStops (stops : List (Json × Json)) : List (α × Json) :=
  stops.filterMap fun stop => stop.1.asFloat?.map fun x => (Arith.ofDouble x, stop.2)

def ofStops (colors : Bool) (base : α) (kind : FunctionKind) (stops : List (Json × Json)) :
    Curve α :=
  match kind with
  | .identity => identity colors
  | .categorical => ofCategories colors stops
  | .exponential | .interval => ofNumericStops colors base kind (numericStops stops)

/-! ## Outputs -/

def atZoom? (curve : Curve α) (zoom : α) (default : Value α) : Option (Value α) :=
  match curve with
  | interpolated i => i.evaluate? zoom
  | constant value => some value
  | _ => some default

def output? (curve : Curve α) (input : Json) (default : Value α) : Option (Value α) :=
  match curve with
  | interpolated i =>
    match input.asFloat? with
    | some x => i.evaluate? (Arith.ofDouble x)
    | none => some default
  | categorical outputs =>
    some (((Category.ofJson? input).bind fun category => outputs.lookup category).getD default)
  | identity colors => some (Value.ofJson colors input)
  | constant value => some value
  | fallback => some default

/-- The output for a feature value that may be absent. -/
def lookup? (curve : Curve α) (input : Option Json) (default : Value α) : Option (Value α) :=
  match input with
  | some input => curve.output? input default
  | none => some default

/-- The output for a feature value that may be absent, with `null` in place of none. -/
def lookup (curve : Curve α) (input : Option Json) (default : Value α) : Value α :=
  (curve.lookup? input default).getD .null

end Curve

end StyledMap
