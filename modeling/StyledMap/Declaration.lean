import StyledMap.Fault

/-! # Declared values

A paint or layout property is declared by a JSON value, which is a constant or a function of the
zoom level, of a property of the feature, or of both.

* `Declaration` is the classified value; stop inputs of the zoom are numbers, all else is raw
  JSON.
* `Declaration.ofJson` classifies a value and finds every fault in it.
-/

set_option autoImplicit false

namespace StyledMap

/-- How a function maps its input onto its stops. -/
inductive FunctionKind
  /-- Interpolates between stops. -/
  | exponential
  /-- Steps at every stop. -/
  | interval
  /-- Looks the input up among the stops. -/
  | categorical
  /-- Gives the input back. -/
  | identity
  deriving DecidableEq, Repr

namespace FunctionKind

def name : FunctionKind → String
  | exponential => "exponential"
  | interval => "interval"
  | categorical => "categorical"
  | identity => "identity"

def ofName? : String → Option FunctionKind
  | "exponential" => some exponential
  | "interval" => some interval
  | "categorical" => some categorical
  | "identity" => some identity
  | _ => none

def isNumeric : FunctionKind → Bool
  | exponential | interval => true
  | categorical | identity => false

end FunctionKind

/-- A function of the zoom level. -/
structure ZoomFunction where
  stops : List (Float × Json)
  base : Float
  kind : FunctionKind

/-- A function of a feature property. The fallback is the value the function itself names for
features it has no output for. -/
structure PropertyFunction where
  property : String
  stops : List (Json × Json)
  base : Float
  kind : FunctionKind
  fallback : Option Json

/-- A function of the zoom level whose outputs are functions of one feature property. -/
structure ZoomPropertyFunction where
  property : String
  stops : List (Float × List (Json × Json))
  base : Float
  kind : FunctionKind
  fallback : Option Json

/-- A classified property value. -/
inductive Declaration
  | constant (value : Json)
  | zoom (f : ZoomFunction)
  | property (f : PropertyFunction)
  | zoomAndProperty (f : ZoomPropertyFunction)

namespace Declaration

def isFunction : Declaration → Bool
  | constant _ => false
  | _ => true

/-! ## Parts of a function object -/

/-- The base: a positive number, by default one. -/
def baseOf (members : Table Json) : Except FunctionFault Float :=
  match members.get? "base" with
  | none => .ok 1.0
  | some value =>
    match value.asFloat? with
    | none => .error .baseNotNumber
    | some base => if base ≤ 0.0 then .error .baseNotPositive else .ok base

def kindOf (members : Table Json) : Except FunctionFault (Option FunctionKind) :=
  match members.get? "type" with
  | none => .ok none
  | some (.string name) =>
    match FunctionKind.ofName? name with
    | some kind => .ok (some kind)
    | none => .error (.unknownType name)
  | some _ => .error .typeNotString

def propertyOf (members : Table Json) : Except FunctionFault (Option String) :=
  match members.get? "property" with
  | none => .ok none
  | some (.string name) => .ok (some name)
  | some _ => .error .propertyNotString

def pairsOf (value : Json) : Except FunctionFault (List (Json × Json)) :=
  match value with
  | .array stops => stops.mapM fun stop =>
    match stop.asPair? with
    | some pair => .ok pair
    | none => .error .stopNotPair
  | _ => .error .stopsNotArray

/-- The stops; an object without them has none. -/
def stopsOf (members : Table Json) : Except FunctionFault (List (Json × Json)) :=
  match members.get? "stops" with
  | none => .ok []
  | some value => pairsOf value

def numericInput (input : Json) : Except FunctionFault Float :=
  match input.asFloat? with
  | some x => .ok x
  | none => .error (.inputNotNumber input)

/-! ## Functions of the zoom level -/

/-- Classifies a function without a property. -/
def ofZoomStops (stops : List (Json × Json)) (base : Float) (kind : Option FunctionKind) :
    Except FunctionFault Declaration := do
  let kind := kind.getD .exponential
  if kind.isNumeric then
    let stops ← stops.mapM fun stop => do return (← numericInput stop.1, stop.2)
    return zoom ⟨stops, base, kind⟩
  else .error .needsProperty

/-! ## Functions of a property -/

def isStopList : Json → Bool
  | .array items => !items.isEmpty && items.all fun item => item.asPair?.isSome
  | _ => false

/-- The zoom level and the feature value of an input that holds both. -/
def keyedInput (input : Json) : Except FunctionFault (Float × Json) :=
  match input with
  | .object members =>
    match (Table.get? members "zoom").bind Json.asFloat? with
    | none => .error .missingZoom
    | some level =>
      match Table.get? members "value" with
      | none => .error .missingValue
      | some value => .ok (level, value)
  | _ => .error .inputNotKeyed

def addToGroup (level : Float) (stop : Json × Json) :
    List (Float × List (Json × Json)) → List (Float × List (Json × Json))
  | [] => [(level, [stop])]
  | (z, inner) :: rest =>
    if z == level then (z, inner ++ [stop]) :: rest else (z, inner) :: addToGroup level stop rest

/-- Groups stops by the zoom level of their inputs, in the order in which levels first occur. -/
def groupByZoom (stops : List (Json × Json)) :
    Except FunctionFault (List (Float × List (Json × Json))) :=
  stops.foldlM (fun groups stop => do
    let (level, value) ← keyedInput stop.1
    return addToGroup level (value, stop.2) groups) []

def nestedStops (stops : List (Json × Json)) :
    Except FunctionFault (List (Float × List (Json × Json))) :=
  stops.mapM fun stop => do return (← numericInput stop.1, ← pairsOf stop.2)

/-- The kind that the input of the first stop implies. -/
def impliedKind (firstInput : Json) : FunctionKind :=
  if firstInput.isNumber then .exponential else .categorical

/-- Classifies a function with a property. The first stop decides between the notations. -/
def ofPropertyStops (property : String) (stops : List (Json × Json)) (base : Float)
    (kind : Option FunctionKind) (fallback : Option Json) : Except FunctionFault Declaration :=
  match stops with
  | [] => .ok (.property ⟨property, [], base, kind.getD .exponential, fallback⟩)
  | (.object _, _) :: _ => do
    return zoomAndProperty
      ⟨property, ← groupByZoom stops, base, kind.getD .exponential, fallback⟩
  | (input, output) :: _ =>
    if input.isNumber && isStopList output then do
      return zoomAndProperty
        ⟨property, ← nestedStops stops, base, kind.getD .exponential, fallback⟩
    else do
      let kind := kind.getD (impliedKind input)
      if kind.isNumeric then
        stops.forM fun stop => do let _ ← numericInput stop.1
      return .property ⟨property, stops, base, kind, fallback⟩

/-! ## All values -/

def ofMembers (members : Table Json) : Except FunctionFault Declaration := do
  let base ← baseOf members
  let kind ← kindOf members
  let property ← propertyOf members
  let stops ← stopsOf members
  match property with
  | none => ofZoomStops stops base kind
  | some property =>
    let fallback := members.get? "default"
    if kind = some .identity then
      return .property ⟨property, [], base, .identity, fallback⟩
    else if members.contains "stops" then
      ofPropertyStops property stops base kind fallback
    else .error .needsStops

def isFunctionObject (members : Table Json) : Bool :=
  members.contains "stops" || members.contains "property"

/-- Classifies the declared value of the property `name`. -/
def ofJson (name : String) (value : Json) : Except Fault Declaration :=
  match value with
  | .object members =>
    if isFunctionObject members then (ofMembers members).mapError (.malformedFunction name)
    else .ok (constant value)
  | _ => .ok (constant value)

end Declaration

end StyledMap
