/-! # Kinds of layers

`LayerKind` is the type that a layer names. A name without a kind of its own is kept as it is.
-/

set_option autoImplicit false

namespace StyledMap

/-- The type of a layer. -/
inductive LayerKind
  | background
  | fill
  | line
  | symbol
  | circle
  | raster
  | fillExtrusion
  | heatmap
  | hillshade
  | other (name : String)
  deriving DecidableEq, Repr

namespace LayerKind

def name : LayerKind → String
  | background => "background"
  | fill => "fill"
  | line => "line"
  | symbol => "symbol"
  | circle => "circle"
  | raster => "raster"
  | fillExtrusion => "fill-extrusion"
  | heatmap => "heatmap"
  | hillshade => "hillshade"
  | other name => name

def ofName : String → LayerKind
  | "background" => background
  | "fill" => fill
  | "line" => line
  | "symbol" => symbol
  | "circle" => circle
  | "raster" => raster
  | "fill-extrusion" => fillExtrusion
  | "heatmap" => heatmap
  | "hillshade" => hillshade
  | name => other name

end LayerKind

end StyledMap
