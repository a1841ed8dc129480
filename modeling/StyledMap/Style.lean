import StyledMap.Document
import StyledMap.Layer.Compiled
import StyledMap.Layer.Inheritance

/-! # Compiled styles

* `CompiledStyle` has the compiled layers of a document in drawing order, and the problems it
  survived.
* `CompiledStyle.compile` reports a dangling reference; `CompiledStyle.compileStrict` refuses it.
-/

set_option autoImplicit false

namespace StyledMap

/-- A style ready to draw. -/
structure CompiledStyle where
  layers : List CompiledLayer
  diagnostics : List Diagnostic

namespace CompiledStyle

/-- Compiles a document. A layer whose reference dangles inherits nothing. -/
def compile (choice : FaultChoice) (d : Document) : Except Fault CompiledStyle := do
  let resolution := Resolution.ofLayers d.layers
  return ⟨← CompiledLayer.compileAll choice resolution.layers, resolution.diagnostics⟩

/-- Compiles a document without dangling references. -/
def compileStrict (choice : FaultChoice) (d : Document) : Except Fault CompiledStyle := do
  let layers ← (Resolution.ofLayers d.layers).strict
  return ⟨← CompiledLayer.compileAll choice layers, []⟩

/-- The first layer of an id. -/
def layer? (s : CompiledStyle) (id : String) : Option CompiledLayer :=
  s.layers.find? fun l => l.id == id

/-- The layers that draw at a zoom level, in drawing order. -/
def visibleAt (s : CompiledStyle) (zoom : Float) : List CompiledLayer :=
  s.layers.filter (CompiledLayer.isVisibleAt · zoom)

end CompiledStyle

end StyledMap
