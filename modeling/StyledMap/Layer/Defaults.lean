import StyledMap.Json.Fields
import StyledMap.Layer.Kind

/-! # Default values of layers

* `layoutDefaults` and `paintDefaults` are the documented defaults of a layer kind. Properties
  without one are left out, and a kind without a table has none.
* `LayerDefaults` holds both tables of one kind.
-/

set_option autoImplicit false

namespace StyledMap

open Json (natural)

/-- The layout defaults of a kind, in the order of their names. -/
def layoutDefaults : LayerKind → Table Json
  | .line =>
    [("line-cap", .string "butt"), ("line-join", .string "miter"), ("line-miter-limit", natural 2),
     ("line-round-limit", Json.double 1.05), ("visibility", .string "visible")]
  | .symbol =>
    [("icon-allow-overlap", .bool false), ("icon-anchor", .string "center"),
     ("icon-ignore-placement", .bool false), ("icon-keep-upright", .bool false),
     ("icon-offset", .array [natural 0, natural 0]), ("icon-optional", .bool false),
     ("icon-padding", natural 2), ("icon-pitch-alignment", .string "auto"),
     ("icon-rotate", natural 0), ("icon-rotation-alignment", .string "auto"),
     ("icon-size", natural 1), ("icon-text-fit", .string "none"),
     ("icon-text-fit-padding", .array [natural 0, natural 0, natural 0, natural 0]),
     ("symbol-avoid-edges", .bool false), ("symbol-placement", .string "point"),
     ("symbol-spacing", natural 250), ("symbol-z-order", .string "auto"),
     ("text-allow-overlap", .bool false), ("text-anchor", .string "center"),
     ("text-field", .string ""),
     ("text-font", .array [.string "Open Sans Regular", .string "Arial Unicode MS Regular"]),
     ("text-ignore-placement", .bool false), ("text-justify", .string "center"),
     ("text-keep-upright", .bool true), ("text-letter-spacing", natural 0),
     ("text-line-height", Json.double 1.2), ("text-max-angle", natural 45),
     ("text-max-width", natural 10), ("text-offset", .array [natural 0, natural 0]),
     ("text-optional", .bool false), ("text-padding", natural 2),
     ("text-pitch-alignment", .string "auto"), ("text-rotate", natural 0),
     ("text-rotation-alignment", .string "auto"), ("text-size", natural 16),
     ("text-transform", .string "none"), ("visibility", .string "visible")]
  | .background | .fill | .circle | .raster | .fillExtrusion | .heatmap | .hillshade =>
    [("visibility", .string "visible")]
  | .other _ => []

/-- The paint defaults of a kind, in the order of their names. -/
def paintDefaults : LayerKind → Table Json
  | .background =>
    [("background-color", .string "#000000"), ("background-opacity", natural 1)]
  | .fill =>
    [("fill-antialias", .bool true), ("fill-color", .string "#000000"),
     ("fill-opacity", natural 1), ("fill-translate", .array [natural 0, natural 0]),
     ("fill-translate-anchor", .string "map")]
  | .line =>
    [("line-blur", natural 0), ("line-color", .string "#000000"), ("line-gap-width", natural 0),
     ("line-offset", natural 0), ("line-opacity", natural 1),
     ("line-translate", .array [natural 0, natural 0]), ("line-translate-anchor", .string "map"),
     ("line-width", natural 1)]
  | .symbol =>
    [("icon-color", .string "#000000"), ("icon-halo-blur", natural 0),
     ("icon-halo-color", .string "rgba(0, 0, 0, 0)"), ("icon-halo-width", natural 0),
     ("icon-opacity", natural 1), ("icon-translate", .array [natural 0, natural 0]),
     ("icon-translate-anchor", .string "map"), ("text-color", .string "#000000"),
     ("text-halo-blur", natural 0), ("text-halo-color", .string "rgba(0, 0, 0, 0)"),
     ("text-halo-width", natural 0), ("text-opacity", natural 1),
     ("text-translate", .array [natural 0, natural 0]), ("text-translate-anchor", .string "map")]
  | .circle =>
    [("circle-blur", natural 0), ("circle-color", .string "#000000"), ("circle-opacity", natural 1),
     ("circle-pitch-alignment", .string "viewport"), ("circle-pitch-scale", .string "map"),
     ("circle-radius", natural 5), ("circle-stroke-color", .string "#000000"),
     ("circle-stroke-opacity", natural 1), ("circle-stroke-width", natural 0),
     ("circle-translate", .array [natural 0, natural 0]),
     ("circle-translate-anchor", .string "map")]
  | .raster =>
    [("raster-brightness-max", natural 1), ("raster-brightness-min", natural 0),
     ("raster-contrast", natural 0), ("raster-fade-duration", natural 300),
     ("raster-hue-rotate", natural 0), ("raster-opacity", natural 1),
     ("raster-resampling", .string "linear"), ("raster-saturation", natural 0)]
  | .fillExtrusion =>
    [("fill-extrusion-base", natural 0), ("fill-extrusion-color", .string "#000000"),
     ("fill-extrusion-height", natural 0), ("fill-extrusion-opacity", natural 1),
     ("fill-extrusion-translate", .array [natural 0, natural 0]),
     ("fill-extrusion-translate-anchor", .string "map"),
     ("fill-extrusion-vertical-gradient", .bool true)]
  | .heatmap =>
    [("heatmap-intensity", natural 1), ("heatmap-opacity", natural 1),
     ("heatmap-radius", natural 30), ("heatmap-weight", natural 1)]
  | .hillshade =>
    [("hillshade-accent-color", .string "#000000"), ("hillshade-exaggeration", Json.double 0.5),
     ("hillshade-highlight-color", .string "#FFFFFF"),
     ("hillshade-illumination-anchor", .string "viewport"),
     ("hillshade-illumination-direction", natural 335),
     ("hillshade-shadow-color", .string "#000000")]
  | .other _ => []

/-- The default values of a layer. -/
structure LayerDefaults where
  layout : Table Json
  paint : Table Json

/-- The defaults of a kind. -/
def LayerDefaults.ofKind (kind : LayerKind) : LayerDefaults :=
  ⟨layoutDefaults kind, paintDefaults kind⟩

/-- The defaults of an optional kind; without a kind there are none. -/
def LayerDefaults.ofKind? (kind : Option LayerKind) : LayerDefaults :=
  match kind with
  | some kind => ofKind kind
  | none => ⟨[], []⟩

end StyledMap
