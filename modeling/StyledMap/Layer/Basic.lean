import StyledMap.Json.Fields
import StyledMap.Layer.Kind

/-! # Layers

* `Layer` is one drawing rule of a style as it is declared. A layer with a `reference` takes fields
  from another one, so nearly every field may be absent.
* `Layer.ofJson?` reads a layer. Members without a field of their own are kept in `extra`.
* `Layer.toJson` writes a layer; absent fields are left out.
-/

set_option autoImplicit false

namespace StyledMap

/-- A declared layer. -/
structure Layer where
  id : String
  kind : Option LayerKind
  reference : Option String
  source : Option String
  sourceLayer : Option String
  minzoom : Option Float
  maxzoom : Option Float
  filter : Option Json
  layout : Option (Table Json)
  paint : Option (Table Json)
  extra : Table Json

namespace Layer

/-- The layer of an id and a kind, without anything else. -/
def ofKind (id : String) (kind : LayerKind) : Layer :=
  ⟨id, some kind, none, none, none, none, none, none, none, none, []⟩

def fieldNames : List String :=
  ["id", "type", "ref", "source", "source-layer", "minzoom", "maxzoom", "filter", "layout", "paint"]

def readKind? (value : Json) : Option LayerKind :=
  value.asString?.map LayerKind.ofName

def ofMembers? (members : Table Json) : Option Layer := do
  return {
    id := ← Json.required? Json.asString? members "id"
    kind := ← Json.optional? readKind? members "type"
    reference := ← Json.optional? Json.asString? members "ref"
    source := ← Json.optional? Json.asString? members "source"
    sourceLayer := ← Json.optional? Json.asString? members "source-layer"
    minzoom := ← Json.optional? Json.asFloat? members "minzoom"
    maxzoom := ← Json.optional? Json.asFloat? members "maxzoom"
    filter := ← Json.optional? some members "filter"
    layout := ← Json.optional? Json.asMembers? members "layout"
    paint := ← Json.optional? Json.asMembers? members "paint"
    extra := members.without fieldNames }

def ofJson? (value : Json) : Option Layer :=
  value.asMembers?.bind ofMembers?

def fields (l : Layer) : List (String × Json) :=
  [("id", .string l.id)] ++ Json.field (.string ·.name) "type" l.kind ++
    Json.field .string "ref" l.reference ++ Json.field .string "source" l.source ++
    Json.field .string "source-layer" l.sourceLayer ++ Json.field Json.double "minzoom" l.minzoom ++
    Json.field Json.double "maxzoom" l.maxzoom ++ Json.field (fun v => v) "filter" l.filter ++
    Json.field .object "layout" l.layout ++ Json.field .object "paint" l.paint

def toJson (l : Layer) : Json :=
  .object (l.extra.extend l.fields)

end Layer

end StyledMap
