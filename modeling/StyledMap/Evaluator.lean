import StyledMap.Curve

/-! # Evaluators

* `Evaluator` is a compiled property: a function of the zoom level and a feature.
* `Evaluator.compile` compiles the declared value of a property, and `Evaluator.compileAll` a whole
  table of them against the defaults of a layer kind.
* `Evaluator.evaluate?` gives the value at a zoom level for a feature, and none where an index would
  be out of range.
* `Evaluator.dependsOnZoom` and `Evaluator.dependsOnFeature` say what the value can change with.

A property takes colors when its name ends in `-color` or its default is a color.
-/

set_option autoImplicit false

namespace StyledMap

/-- A compiled property. -/
inductive Evaluator (α : Type)
  | constant (value : Value α)
  | zoom (curve : Curve α) (default : Value α)
  | property (name : String) (curve : Curve α) (default : Value α)
  | zoomAndProperty (name : String) (zooms : List α) (curves : List (Curve α)) (scale : Scale α)
      (default : Value α)

def takesColors (α : Type) [Arith α] (name : String) (default : Option Json) : Bool :=
  (Text.before? "-color".toList name.toList).isSome ||
    (default.bind Json.asString?).any (Color.isColor α)

namespace Evaluator

variable {α : Type} [Arith α]

/-! ## Compiling -/

/-- Reads an optional default; without one the default is `null`. -/
def defaultOf (colors : Bool) (default : Option Json) : Value α :=
  match default with
  | some value => Value.ofJson colors value
  | none => .null

def ofZoom (colors : Bool) (default : Value α) (f : ZoomFunction) : Evaluator α :=
  let stops := f.stops.map fun stop => (Arith.ofDouble stop.1, stop.2)
  match Curve.ofNumericStops colors (Arith.ofDouble f.base) f.kind stops with
  | .constant value => constant value
  | .fallback => constant default
  | curve => zoom curve default

/-- The default of a function: its own, or else that of the property. -/
def functionDefault (colors : Bool) (default : Value α) (own : Option Json) : Value α :=
  match own with
  | some value => Value.ofJson colors value
  | none => default

def ofProperty (colors : Bool) (default : Value α) (f : PropertyFunction) : Evaluator α :=
  property f.property (Curve.ofStops colors (Arith.ofDouble f.base) f.kind f.stops)
    (functionDefault colors default f.fallback)

def zoomScale (kind : FunctionKind) (base : α) : Scale α :=
  if kind = .interval then .step else Scale.ofBase base

def ofZoomAndProperty (colors : Bool) (default : Value α) (f : ZoomPropertyFunction) :
    Evaluator α :=
  let base : α := Arith.ofDouble f.base
  zoomAndProperty f.property (f.stops.map fun stop => Arith.ofDouble stop.1)
    (f.stops.map fun stop => Curve.ofStops colors base f.kind stop.2) (zoomScale f.kind base)
    (functionDefault colors default f.fallback)

def ofDeclaration (colors : Bool) (default : Value α) : Declaration → Evaluator α
  | .constant value => constant (Value.ofJson colors value)
  | .zoom f => ofZoom colors default f
  | .property f => ofProperty colors default f
  | .zoomAndProperty f => ofZoomAndProperty colors default f

/-- Compiles the property `name`. A property that is not declared has its default. -/
def compile (name : String) (declared default : Option Json) : Except Fault (Evaluator α) :=
  let colors := takesColors α name default
  match declared with
  | none => .ok (constant (defaultOf colors default))
  | some value =>
    (Declaration.ofJson name value).map (ofDeclaration colors (defaultOf colors default))

/-- Compiles the properties of a table of defaults, in its order. -/
def compileDefaults (declared : Table Json) :
    Table Json → Except Fault (List (String × Evaluator α))
  | [] => .ok []
  | (name, default) :: rest =>
    match compile name (declared.get? name) (some default) with
    | .error fault => .error fault
    | .ok evaluator => (compileDefaults declared rest).map ((name, evaluator) :: ·)

/-- Compiles declared properties without defaults, in their order. -/
def compileDeclared : Table Json → Except Fault (List (String × Evaluator α))
  | [] => .ok []
  | (name, value) :: rest =>
    match compile name (some value) none with
    | .error fault => .error fault
    | .ok evaluator => (compileDeclared rest).map ((name, evaluator) :: ·)

/-- Compiles every property that has a default or is declared. Faults among the properties with
defaults come before those among the others. -/
def compileAll (declared : Option (Table Json)) (defaults : Table Json) :
    Except Fault (Table (Evaluator α)) := do
  let declared : Table Json := declared.getD []
  let known ← compileDefaults declared defaults
  let others ← compileDeclared (declared.without defaults.keys)
  return Table.ofList (known ++ others)

/-! ## Evaluating -/

/-- The value at a zoom level between two others, from the values at these. -/
def between? (output? : Nat → Option (Value α)) (zooms : List α) (scale : Scale α) (lower : Nat)
    (z : α) (upper : Nat) : Option (Value α) := do
  let below ← output? lower
  match scale with
  | .step => return below
  | scale =>
    let above ← output? upper
    return below.blend (scale.position (← zooms[lower]?) z (← zooms[upper]?)) above

/-- The value at a zoom level for a feature. Zoom levels and curves are read by index, and there is
no value where an index is out of range. -/
def evaluate? (e : Evaluator α) (z : α) (f : Feature) : Option (Value α) :=
  match e with
  | constant value => some value
  | zoom curve default => curve.atZoom? z default
  | property name curve default => curve.lookup? (f.property? name) default
  | zoomAndProperty name zooms curves scale default =>
    let output? := fun (k : Nat) =>
      curves[k]?.bind fun curve => curve.lookup? (f.property? name) default
    match locate? z zooms with
    | none => some default
    | some (.at k) => output? k
    | some (.between lower upper) => between? output? zooms scale lower z upper

/-- The value at a zoom level for a feature, with `null` in place of none. -/
def evaluate (e : Evaluator α) (z : α) (f : Feature) : Value α :=
  (e.evaluate? z f).getD .null

def dependsOnZoom : Evaluator α → Bool
  | zoom _ _ | zoomAndProperty .. => true
  | constant _ | property .. => false

def dependsOnFeature : Evaluator α → Bool
  | property .. | zoomAndProperty .. => true
  | constant _ | zoom _ _ => false

def kindName (e : Evaluator α) : String :=
  match e.dependsOnZoom, e.dependsOnFeature with
  | false, false => "constant"
  | true, false => "zoom"
  | false, true => "property"
  | true, true => "zoom-and-property"

def kindNames (evaluators : Table (Evaluator α)) : Table String :=
  evaluators.mapValues kindName

end Evaluator

end StyledMap
