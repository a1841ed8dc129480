import StyledMap.Link.Loader

/-! # Reports

A report shows what a loaded and compiled style evaluates to at one zoom level for one feature.

* `LayerReport` has the values of one layer and what each of them can change with.
* `Report.of` reports on a whole style, and `Report.toJson` writes the report.
-/

set_option autoImplicit false

namespace StyledMap

/-- What one layer evaluates to. -/
structure LayerReport where
  id : String
  kind : Option String
  source : Option String
  sourceLayer : Option String
  visible : Bool
  selects : Bool
  layout : Table Json
  paint : Table Json
  functions : Table String

/-- The size of a sprite and the count of its icons. -/
structure SpriteReport where
  width : Nat
  height : Nat
  icons : Nat

/-- What a style evaluates to. -/
structure Report where
  name : Option String
  zoom : Float
  sources : List String
  glyphs : Option String
  sprite : Option SpriteReport
  layers : List LayerReport
  diagnostics : List Diagnostic

def evaluateAll (table : Table (Evaluator Float)) (zoom : Float) (f : Feature) : Table Json :=
  table.mapValues fun e => (e.evaluate zoom f).toJson

namespace LayerReport

/-- Reports on a layer. A property of both layout and paint is named by its paint function. -/
def of (c : CompiledLayer) (zoom : Float) (f : Feature) : LayerReport where
  id := c.id
  kind := c.kind.map LayerKind.name
  source := c.source
  sourceLayer := c.sourceLayer
  visible := c.isVisibleAt zoom
  selects := c.selects f
  layout := evaluateAll c.layout zoom f
  paint := evaluateAll c.paint zoom f
  functions := (Evaluator.kindNames c.layout).extend (Evaluator.kindNames c.paint)

def toJson (r : LayerReport) : Json :=
  .object [("id", .string r.id), ("type", Json.ofString? r.kind),
    ("source", Json.ofString? r.source), ("source-layer", Json.ofString? r.sourceLayer),
    ("visible", .bool r.visible), ("matches", .bool r.selects), ("layout", .object r.layout),
    ("paint", .object r.paint), ("functions", .object (r.functions.mapValues .string))]

end LayerReport

namespace SpriteReport

def of (s : Sprite) : SpriteReport :=
  ⟨s.image.width, s.image.height, (s.metadata.asMembers?.getD []).length⟩

def toJson (r : SpriteReport) : Json :=
  .object [("width", Json.natural r.width), ("height", Json.natural r.height),
    ("icons", Json.natural r.icons)]

end SpriteReport

namespace Report

def of (loaded : LoadedStyle) (compiled : CompiledStyle) (zoom : Float) (f : Feature) : Report where
  name := loaded.document.name
  zoom
  sources := loaded.document.sources.keys
  glyphs := loaded.document.glyphs
  sprite := loaded.sprite.map SpriteReport.of
  layers := compiled.layers.map fun c => LayerReport.of c zoom f
  diagnostics := compiled.diagnostics

def toJson (r : Report) : Json :=
  .object [("name", Json.ofString? r.name), ("zoom", Json.ofFloat r.zoom),
    ("sources", .array (r.sources.map .string)), ("glyphs", Json.ofString? r.glyphs),
    ("sprite", (r.sprite.map SpriteReport.toJson).getD .null),
    ("layers", .array (r.layers.map LayerReport.toJson)),
    ("diagnostics", .array (r.diagnostics.map Diagnostic.toJson))]

end Report

end StyledMap
