import StyledMap.Layer.Compiled
import StyledMap.Proofs.Fault

/-! # What compiled layers have

* `Compiles`: a compiled layer has what its layer declares, with its filter as a selector and its
  properties as evaluators.
* `compile_eq_ok` and `compileAll_eq_ok`: compiling gives such a layer, and one for each of a list.
* `exists_compileAll_eq_error`: what a list may be refused for is what one of its layers is.
* `Compiles.selector_eq`, `Compiles.layout_eq` and `isVisibleAt_congr`: what a renderer is told is
  decided by a few fields of a layer.
-/

set_option autoImplicit false

namespace StyledMap.CompiledLayer

variable {l l' : Layer} {defaults defaults' : LayerDefaults} {c c' : CompiledLayer}

/-- A compiled layer is that of a layer and of default values. -/
structure Compiles (l : Layer) (defaults : LayerDefaults) (c : CompiledLayer) : Prop where
  id : c.id = l.id
  kind : c.kind = l.kind
  source : c.source = l.source
  sourceLayer : c.sourceLayer = l.sourceLayer
  minzoom : c.minzoom = l.minzoom
  maxzoom : c.maxzoom = l.maxzoom
  selector : Selector.ofFilter l.filter = .ok c.selector
  layout : Evaluator.compileAll l.layout defaults.layout = .ok c.layout
  paint : Evaluator.compileAll l.paint defaults.paint = .ok c.paint

theorem compile_eq_ok : compile l defaults = .ok c ↔ Compiles l defaults c := by
  rw [compile, Reading.mapError_eq_ok, ofLayer]
  simp only [Reading.bind_eq_ok, Reading.pure_eq_ok]
  constructor
  · rintro ⟨selector, hselector, layout, hlayout, paint, hpaint, rfl⟩
    exact ⟨rfl, rfl, rfl, rfl, rfl, rfl, hselector, hlayout, hpaint⟩
  · rintro ⟨hid, hkind, hsource, hsourceLayer, hmin, hmax, hselector, hlayout, hpaint⟩
    refine ⟨c.selector, hselector, c.layout, hlayout, c.paint, hpaint, ?_⟩
    rw [← hid, ← hkind, ← hsource, ← hsourceLayer, ← hmin, ← hmax]

/-- Layers are compiled when each of them is, by the defaults of its own kind. -/
theorem compileAll_eq_ok {choice : FaultChoice} {layers : List Layer} {out : List CompiledLayer} :
    compileAll choice layers = .ok out ↔
      List.Forall₂ (fun l c => Compiles l (LayerDefaults.ofKind? l.kind) c) layers out := by
  simp only [compileAll, FaultChoice.gather_eq_ok, compile_eq_ok]

/-- Any layer that is refused may be the one that is reported, and no other is. -/
theorem exists_compileAll_eq_error {layers : List Layer} {fault : Fault} :
    (∃ choice, compileAll choice layers = .error fault) ↔
      ∃ l ∈ layers, compile l (LayerDefaults.ofKind? l.kind) = .error fault :=
  FaultChoice.exists_gather_map_eq_error

theorem map_id_of_compileAll {choice : FaultChoice} {layers : List Layer}
    {out : List CompiledLayer} (h : compileAll choice layers = .ok out) :
    out.map CompiledLayer.id = layers.map Layer.id :=
  (Reading.map_eq_map_of_forall₂ (compileAll_eq_ok.1 h) fun _ _ _ hc => hc.id.symm).symm

/-! ## What decides what a renderer is told -/

theorem Compiles.selector_eq (h : Compiles l defaults c) (h' : Compiles l' defaults' c')
    (hfilter : l.filter = l'.filter) : c.selector = c'.selector :=
  Except.ok.inj (by rw [← h.selector, ← h'.selector, hfilter])

theorem Compiles.layout_eq (h : Compiles l defaults c) (h' : Compiles l' defaults' c')
    (hlayout : l.layout = l'.layout) (hdefaults : defaults.layout = defaults'.layout) :
    c.layout = c'.layout :=
  Except.ok.inj (by rw [← h.layout, ← h'.layout, hlayout, hdefaults])

theorem isVisibleAt_congr (hmin : c.minzoom = c'.minzoom) (hmax : c.maxzoom = c'.maxzoom)
    (hlayout : c.layout = c'.layout) (zoom : Float) : c.isVisibleAt zoom = c'.isVisibleAt zoom := by
  rw [isVisibleAt, isVisibleAt, isInRange, isInRange, layoutValue, layoutValue, hmin, hmax, hlayout]

end StyledMap.CompiledLayer
