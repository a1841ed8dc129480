import StyledMap.Proofs.Document
import StyledMap.Proofs.Layer.Compiled
import StyledMap.Proofs.Layer.Inheritance
import StyledMap.Style

/-! # Compiling documents

The references of a document are resolved, and what its layers become is compiled.

* `compile_eq` and `exists_compile_eq_error`: the faults of a document are those of its resolved
  layers, and nothing else stops it from being compiled.
* `exists_layer?_of_compile`: the compiled layer of an id is that of the layer of the id.
* `compileStrict_eq_compile` and `compileStrict_eq_error`: a strict compiler differs from a lenient
  one when a reference dangles, and only then.
* `compile_child`: a layer with a reference draws what the layer that it names selects, in its own
  paint.
-/

set_option autoImplicit false

namespace StyledMap.CompiledStyle

open Layer

variable {choice : FaultChoice} {d : Document} {s : CompiledStyle}

theorem compile_eq (choice : FaultChoice) (d : Document) :
    compile choice d = (CompiledLayer.compileAll choice (Resolution.ofLayers d.layers).layers).map
      fun layers => ⟨layers, (Resolution.ofLayers d.layers).diagnostics⟩ := by
  rw [compile]
  cases CompiledLayer.compileAll choice (Resolution.ofLayers d.layers).layers <;> rfl

theorem compile_eq_ok : compile choice d = .ok s ↔
    CompiledLayer.compileAll choice (Resolution.ofLayers d.layers).layers = .ok s.layers ∧
      s.diagnostics = (Resolution.ofLayers d.layers).diagnostics := by
  rw [compile_eq, Reading.map_eq_ok]
  constructor
  · rintro ⟨layers, hlayers, rfl⟩
    exact ⟨hlayers, rfl⟩
  · rintro ⟨hlayers, hdiagnostics⟩
    exact ⟨s.layers, hlayers, by rw [← hdiagnostics]⟩

/-- What is compiled does not depend on the choice of faults. -/
theorem compile_eq_ok_iff (choice choice' : FaultChoice) :
    compile choice d = .ok s ↔ compile choice' d = .ok s := by
  rw [compile_eq_ok, compile_eq_ok, CompiledLayer.compileAll_eq_ok, CompiledLayer.compileAll_eq_ok]

theorem exists_compile_eq_error {fault : Fault} :
    (∃ choice, compile choice d = .error fault) ↔
      ∃ l ∈ d.layers, CompiledLayer.compile (l.resolved d.layers)
        (LayerDefaults.ofKind? (l.resolved d.layers).kind) = .error fault := by
  simp only [compile_eq, Reading.map_eq_error, CompiledLayer.exists_compileAll_eq_error,
    Resolution.ofLayers, List.mem_map, exists_exists_and_eq_and]

/-- Of a document that is compiled, the compiled layer of an id is that of the layer of the id. -/
theorem exists_layer?_of_compile {l : Layer} {id : String} (hs : compile choice d = .ok s)
    (hl : d.layer? id = some l) : ∃ c, s.layer? id = some c ∧
      c.Compiles (l.resolved d.layers) (LayerDefaults.ofKind? (l.resolved d.layers).kind) := by
  have hall := CompiledLayer.compileAll_eq_ok.1 (compile_eq_ok.1 hs).1
  rw [Resolution.ofLayers, List.forall₂_map_left_iff] at hall
  have hid (m : Layer) (c : CompiledLayer)
      (hc : c.Compiles (m.resolved d.layers) (LayerDefaults.ofKind? (m.resolved d.layers).kind)) :
      (m.id == id) = (c.id == id) := by
    rw [hc.id, id_of_resolves (resolves_resolved d.layers m)]
  obtain ⟨c, hfound, hc⟩ := Reading.exists_find?_of_forall₂ hall hid hl
  exact ⟨c, hfound, hc⟩

/-! ## Strict compilers -/

theorem compileStrict_eq_compile (h : (Resolution.ofLayers d.layers).dangling = []) :
    compileStrict choice d = compile choice d := by
  rw [compileStrict, compile, Resolution.strict_eq_ok h, Resolution.diagnostics_eq_nil h]
  rfl

theorem compileStrict_eq_error {first : Dangling} {rest : List Dangling}
    (h : (Resolution.ofLayers d.layers).dangling = first :: rest) :
    compileStrict choice d = .error (.danglingReference first.layer first.missing) := by
  rw [compileStrict, Resolution.strict_eq_error h]
  rfl

/-! ## Layers with a reference -/

/-- A layer that names one without a reference draws what that one selects. It selects the same
features when the other declares a filter, is laid out in the same way when it declares a type and a
layout, and shows at the same zoom levels when it declares its range too. Its paint is its own,
compiled by the kind that it has in the end, whatever the paint of the other is. -/
theorem compile_child {value : Json} {a b : Layer} (hd : Document.ofJson value = .ok d)
    (hs : compile choice d = .ok s) (ha : a ∈ d.layers) (hb : b ∈ d.layers)
    (href : b.reference = some a.id) (halone : a.reference = none) :
    ∃ ca cb, s.layer? a.id = some ca ∧ s.layer? b.id = some cb ∧
      (a.filter ≠ none → ∀ f, ca.selects f = cb.selects f) ∧
      (a.kind ≠ none → a.layout ≠ none →
        ∀ name zoom f, ca.layoutValue name zoom f = cb.layoutValue name zoom f) ∧
      (a.kind ≠ none → a.layout ≠ none → a.minzoom ≠ none → a.maxzoom ≠ none →
        ∀ zoom, ca.isVisibleAt zoom = cb.isVisibleAt zoom) ∧
      ∃ kind paint, Takes b.kind a.kind kind ∧
        Evaluator.compileAll b.paint (LayerDefaults.ofKind? kind).paint = .ok paint ∧
        ∀ name zoom f, cb.paintValue name zoom f = CompiledLayer.valueIn paint name zoom f := by
  have hn := Document.nodup_of_ofJson hd
  obtain ⟨ca, hca, hparent⟩ := exists_layer?_of_compile hs (Document.layer?_of_mem hn ha)
  obtain ⟨cb, hcb, hchild⟩ := exists_layer?_of_compile hs (Document.layer?_of_mem hn hb)
  have hin : InheritsFrom b a (b.resolved d.layers) :=
    inheritsFrom_iff.2 (resolved_of_isLast href ((isLast_iff_mem hn).2 ⟨ha, rfl⟩))
  rw [resolved_of_reference_eq_none halone] at hparent
  have hlayout (hk : a.kind ≠ none) (hl : a.layout ≠ none) : ca.layout = cb.layout := by
    refine hparent.layout_eq hchild (hin.layout.eq_of_ne_none hl).symm ?_
    rw [hin.kind.eq_of_ne_none hk]
  refine ⟨ca, cb, hca, hcb, fun hf f => ?_, fun hk hl name zoom f => ?_,
    fun hk hl hmin hmax zoom => ?_, _, cb.paint, hin.kind, ?_, fun _ _ _ => rfl⟩
  · have hselector := hparent.selector_eq hchild (hin.filter.eq_of_ne_none hf).symm
    rw [CompiledLayer.selects, CompiledLayer.selects, hselector]
  · rw [CompiledLayer.layoutValue, CompiledLayer.layoutValue, hlayout hk hl]
  · refine CompiledLayer.isVisibleAt_congr ?_ ?_ (hlayout hk hl) zoom
    · rw [hparent.minzoom, hchild.minzoom, hin.minzoom.eq_of_ne_none hmin]
    · rw [hparent.maxzoom, hchild.maxzoom, hin.maxzoom.eq_of_ne_none hmax]
  · rw [← hin.paint]
    exact hchild.paint

/-! ### An outline

A park and its outline, which has a kind, a filter and a paint of its own. -/

def park : Layer :=
  { Layer.ofKind "park" .fill with
    minzoom := some 5.0
    maxzoom := some 14.0
    filter := some (.array [.string "==", .string "class", .string "park"])
    layout := some [("visibility", .string "visible")]
    paint := some [("fill-color", .string "#a0c080"), ("fill-opacity", Json.double 0.5)] }

def outline : Layer :=
  { Layer.ofKind "outline" .line with
    reference := some "park"
    maxzoom := some 20.0
    filter := some (.array [.string "has", .string "name"])
    paint := some [("fill-antialias", .bool false)] }

def parkStyle : Json :=
  .object [
    ("layers", .array [outline.toJson, park.toJson]),
    ("sources", .object []),
    ("version", .number (.natural 8))]

def parkDocument : Document where
  version := 8
  name := none
  sources := []
  layers := [outline, park]
  sprite := none
  glyphs := none
  extra := []

theorem compile_child_park :
    Document.ofJson parkStyle = .ok parkDocument ∧ ∃ s, compile .first parkDocument = .ok s ∧
      ∃ ca cb, s.layer? "park" = some ca ∧ s.layer? "outline" = some cb ∧
        (∀ f, ca.selects f = cb.selects f) ∧
        (∀ name zoom f, ca.layoutValue name zoom f = cb.layoutValue name zoom f) ∧
        (∀ zoom, ca.isVisibleAt zoom = cb.isVisibleAt zoom) ∧
        ∃ paint, Evaluator.compileAll outline.paint (LayerDefaults.ofKind .fill).paint = .ok paint ∧
          ∀ name zoom f, cb.paintValue name zoom f = CompiledLayer.valueIn paint name zoom f := by
  have hd : Document.ofJson parkStyle = .ok parkDocument := rfl
  obtain ⟨s, hs⟩ : ∃ s, compile .first parkDocument = .ok s := ⟨_, rfl⟩
  obtain ⟨ca, cb, hca, hcb, hselects, hlayout, hvisible, kind, paint, hkind, hpaint, hvalues⟩ :=
    compile_child (a := park) (b := outline) hd hs (by simp [parkDocument])
      (by simp [parkDocument]) rfl rfl
  obtain rfl : kind = some .fill := hkind.1 _ rfl
  exact ⟨hd, s, hs, ca, cb, hca, hcb, hselects (by simp [park]),
    hlayout (by simp [park, Layer.ofKind]) (by simp [park]),
    hvisible (by simp [park, Layer.ofKind]) (by simp [park]) (by simp [park]) (by simp [park]),
    paint, hpaint, hvalues⟩

end StyledMap.CompiledStyle
