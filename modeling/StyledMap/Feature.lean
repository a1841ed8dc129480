import StyledMap.Json.Fields
import StyledMap.Json.Written

/-! # Features

* `Geometry` is the class of a geometry; geometries of several parts count as their parts.
* `Feature` has an optional id, a geometry class and a table of properties.
* `Feature.ofJson?` reads a feature; keys other than `id`, `type` and `properties` are ignored. The
  three fields may also stand in an array, in this order.
* `Feature.ofText?` reads a feature from text. Values of ignored keys are not looked at, and a field
  must not be repeated.
-/

set_option autoImplicit false

namespace StyledMap

/-- The class of a geometry. -/
inductive Geometry
  | point
  | lineString
  | polygon
  | unknown
  deriving DecidableEq, Repr

namespace Geometry

def name : Geometry → String
  | point => "Point"
  | lineString => "LineString"
  | polygon => "Polygon"
  | unknown => "Unknown"

def ofName : String → Geometry
  | "Point" | "MultiPoint" => point
  | "LineString" | "MultiLineString" => lineString
  | "Polygon" | "MultiPolygon" => polygon
  | _ => unknown

end Geometry

/-- A feature: its id, its geometry class and its properties. -/
structure Feature where
  id : Option Json
  geometry : Geometry
  properties : Table Json

namespace Feature

/-- A feature without id and properties. -/
def blank (geometry : Geometry) : Feature := ⟨none, geometry, []⟩

def property? (f : Feature) (name : String) : Option Json :=
  f.properties.get? name

/-- Whether a property is present, even with value `null`. -/
def hasProperty (f : Feature) (name : String) : Bool :=
  f.properties.contains name

def withProperty (f : Feature) (name : String) (value : Json) : Feature :=
  { f with properties := f.properties.insert name value }

/-! ## Reading -/

/-- Reads the three fields. An id of `null` counts as absent. -/
def ofFields? (id geometry properties : Option Json) : Option Feature := do
  let id := match id with
    | some .null => none
    | id => id
  let geometry ← match geometry with
    | none => some Geometry.unknown
    | some g => g.asString?.map Geometry.ofName
  let properties ← match properties with
    | none => some []
    | some p => p.asMembers?
  return ⟨id, geometry, properties⟩

def ofJson? : Json → Option Feature
  | .object members =>
    let get := Table.get? members
    ofFields? (get "id") (get "type") (get "properties")
  | .array items =>
    if items.length ≤ 3 then ofFields? items[0]? items[1]? items[2]? else none
  | _ => none

/-- Reads one field of an object in text. None stands for a repeated field or an unreadable value.
-/
def fieldOfEntries? (entries : List (Option String × Written)) (key : String) :
    Option (Option Json) :=
  match entries.filter fun entry => entry.1 == some key with
  | [] => some none
  | [entry] => (entry.2.toJson? (Written.depthLimit - 1)).map some
  | _ => none

def ofText? (text : String) : Option Feature :=
  match Written.parse? text with
  | some (.object entries) =>
    if entries.all fun entry => entry.1.isSome then do
      ofFields? (← fieldOfEntries? entries "id") (← fieldOfEntries? entries "type")
        (← fieldOfEntries? entries "properties")
    else none
  | some written => (written.toJson? Written.depthLimit).bind ofJson?
  | none => none

/-! ## Writing -/

def toJson (f : Feature) : Json :=
  .object (Table.ofList (Json.field (fun v => v) "id" f.id ++
    [("type", .string f.geometry.name), ("properties", .object f.properties)]))

end Feature

end StyledMap
