import StyledMap.Evaluator
import StyledMap.Layer.Basic
import StyledMap.Layer.Defaults
import StyledMap.Selector.OfJson

/-! # Compiled layers

* `CompiledLayer` has the filter of a layer as a selector and every property as an evaluator.
* `CompiledLayer.compile` compiles a layer against default values; a fault names the layer.
* `CompiledLayer.compileAll` compiles a list of layers; one of their faults is reported, but it is
  not said which.
* `CompiledLayer.isVisibleAt`, `selects`, `layoutValue` and `paintValue` answer what a renderer
  asks.
-/

set_option autoImplicit false

namespace StyledMap

/-- A layer ready to draw. -/
structure CompiledLayer where
  id : String
  kind : Option LayerKind
  source : Option String
  sourceLayer : Option String
  minzoom : Option Float
  maxzoom : Option Float
  selector : Selector
  layout : Table (Evaluator Float)
  paint : Table (Evaluator Float)

namespace CompiledLayer

/-- Compiles a layer; the filter comes first, then layout, then paint. -/
def ofLayer (l : Layer) (defaults : LayerDefaults) : Except Fault CompiledLayer := do
  let selector ← Selector.ofFilter l.filter
  let layout ← Evaluator.compileAll l.layout defaults.layout
  let paint ← Evaluator.compileAll l.paint defaults.paint
  return ⟨l.id, l.kind, l.source, l.sourceLayer, l.minzoom, l.maxzoom, selector, layout, paint⟩

/-- Compiles a layer against default values; a fault names the layer. -/
def compile (l : Layer) (defaults : LayerDefaults) : Except Fault CompiledLayer :=
  (ofLayer l defaults).mapError (.inLayer l.id)

/-- Compiles layers at the same time, each against the defaults of its own kind. Their order stays.
-/
def compileAll (choice : FaultChoice) (layers : List Layer) :
    Except Fault (List CompiledLayer) :=
  choice.gather (layers.map fun l => compile l (LayerDefaults.ofKind? l.kind))

/-! ## What a renderer asks -/

/-- The value of a property in a table; `null` for a property that is not there. -/
def valueIn (table : Table (Evaluator Float)) (name : String) (zoom : Float) (f : Feature) :
    Value Float :=
  match table.get? name with
  | some e => e.evaluate zoom f
  | none => .null

def layoutValue (c : CompiledLayer) (name : String) (zoom : Float) (f : Feature) : Value Float :=
  valueIn c.layout name zoom f

def paintValue (c : CompiledLayer) (name : String) (zoom : Float) (f : Feature) : Value Float :=
  valueIn c.paint name zoom f

def selects (c : CompiledLayer) (f : Feature) : Bool :=
  c.selector.selects f

/-- Whether a zoom level is at or above the least and below the largest of a layer. -/
def isInRange (c : CompiledLayer) (zoom : Float) : Bool :=
  !(c.minzoom.any fun least => zoom < least) && !(c.maxzoom.any fun limit => limit ≤ zoom)

/-- Whether a layer draws at a zoom level: in its range and not switched off. -/
def isVisibleAt (c : CompiledLayer) (zoom : Float) : Bool :=
  c.isInRange zoom &&
    (c.layoutValue "visibility" zoom (Feature.blank .unknown)).asString? != some "none"

end CompiledLayer

end StyledMap
