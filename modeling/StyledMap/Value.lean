import StyledMap.Color.Css
import StyledMap.Json.Fields

/-! # Resolved values

* `Value α` is what a paint or layout property resolves to: a JSON value in which numbers and
  colors are told apart from the rest.
* `Value.ofJson` reads a JSON value; with `colors`, a string that is a color becomes one.
* `Value.blend` mixes two numbers or two colors; of any other pair it is the first.
* `Value.toJson` writes a value; colors become CSS text.
-/

set_option autoImplicit false

namespace StyledMap

/-- A resolved property value. Arrays and objects are kept as they are. -/
inductive Value (α : Type)
  | null
  | bool (b : Bool)
  | number (x : α)
  | string (s : String)
  | color (c : Color α)
  | json (j : Json)
  deriving BEq

namespace Value

variable {α : Type} [Arith α]

instance : Inhabited (Value α) := ⟨null⟩

/-- Reads a string: with `colors`, a CSS color becomes a color. -/
def ofString (colors : Bool) (s : String) : Value α :=
  if colors then
    match Color.parse? s with
    | some c => color c
    | none => string s
  else string s

/-- Reads a JSON value; `colors` applies to a string, not to strings inside arrays and objects. -/
def ofJson (colors : Bool) : Json → Value α
  | .null => null
  | .bool b => bool b
  | .number n => number (Arith.ofDouble n.toFloat)
  | .string s => ofString colors s
  | j => json j

/-- The value at position `t` on the way from `lower` to `upper`. -/
def blend (lower : Value α) (t : α) (upper : Value α) : Value α :=
  match lower, upper with
  | number x, number y => number (Color.mix x t y)
  | color c, color d => color (c.blend t d)
  | _, _ => lower

/-! ## Views -/

/-- Whether a value is `null`. -/
def isNull : Value α → Bool
  | null => true
  | _ => false

def asNumber? : Value α → Option α
  | number x => some x
  | _ => none

def asBool? : Value α → Option Bool
  | bool b => some b
  | _ => none

def asString? : Value α → Option String
  | string s => some s
  | _ => none

def asColor? : Value α → Option (Color α)
  | color c => some c
  | _ => none

/-- The value in JSON. A number that has no digits becomes `null`. -/
def toJson : Value Float → Json
  | null => .null
  | bool b => .bool b
  | number x => Json.ofFloat x
  | string s => .string s
  | color c => .string c.toCss
  | json j => j

end Value

end StyledMap
