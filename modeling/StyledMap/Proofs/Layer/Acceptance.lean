import StyledMap.Proofs.Evaluator.Tables
import StyledMap.Proofs.Json
import StyledMap.Proofs.Layer.Compiled
import StyledMap.Proofs.RoundTrip

/-! # Layers that compile

A layer compiles by what it declares. The defaults of its kind add properties to it, but whether it
compiles, and why not, they do not decide.

* `Layer.IsReadable` is what a layer has to be, and `Layer.Refuses` gives the fault of one that is
  not: that of its filter, else one of its layout, else one of its paint.
* `CompiledLayer.compile_isOk`: the layers that compile are the readable ones.
* `CompiledLayer.refuses_of_compile`: a layer that does not compile has one of these faults, in which
  the layer is named.
* `CompiledLayer.get?_layout_congr` and `get?_paint_congr`: nothing that stands under other names
  counts for a property.
* `CompiledLayer.compile_refused_or_synthesizes`: these facts about one layer, put together.
-/

set_option autoImplicit false

namespace StyledMap

/-! ## Properties in order -/

/-- Properties are declared in the order of their names, each once, as an object has them. -/
structure Layer.HasTables (l : Layer) : Prop where
  layout : Table.IsSorted (l.layout.getD [])
  paint : Table.IsSorted (l.paint.getD [])

/-- Default values stand in the order of their names, each once. -/
structure LayerDefaults.HasTables (defaults : LayerDefaults) : Prop where
  layout : defaults.layout.IsSorted
  paint : defaults.paint.IsSorted

theorem LayerDefaults.hasTables_ofKind? (kind : Option LayerKind) : (ofKind? kind).HasTables := by
  rcases kind with _ | kind
  · exact ⟨List.Pairwise.nil, List.Pairwise.nil⟩
  · cases kind with
    | other name => exact ⟨List.Pairwise.nil, List.Pairwise.nil⟩
    | _ => exact ⟨by decide, by decide⟩

theorem Json.isSorted_of_optional? {members : Table Json} {key : String}
    {table : Option (Table Json)} (hv : (object members).isOrdered = true)
    (h : optional? asMembers? members key = some table) : Table.IsSorted (table.getD []) := by
  obtain ⟨rfl, -⟩ | ⟨t, found, rfl, hg, -, hread⟩ := optional?_cases h
  · exact List.Pairwise.nil
  · obtain rfl := asMembers?_eq_some.1 hread
    obtain ⟨-, hall⟩ := isOrdered_object.1 hv
    exact (isOrdered_object.1 (hall _ (Table.mem_of_get? hg))).1

namespace Layer

variable {l : Layer}

theorem hasTables_of_ofJson? {value : Json} (hv : value.isOrdered = true)
    (h : ofJson? value = some l) : l.HasTables := by
  obtain ⟨members, hobject, h⟩ := Option.bind_eq_some_iff.1 h
  obtain rfl := Json.asMembers?_eq_some.1 hobject
  obtain ⟨-, -, -, -, -, -, -, -, hlayout, hpaint, -⟩ := ofMembers?_eq_some.1 h
  exact ⟨Json.isSorted_of_optional? hv hlayout, Json.isSorted_of_optional? hv hpaint⟩

/-! ## What a layer has to be -/

/-- The filter of a layer and all that it declares are read. -/
structure IsReadable (l : Layer) : Prop where
  filter : ∃ selector, Selector.ofFilter l.filter = .ok selector
  layout : Declaration.AreRead (l.layout.getD [])
  paint : Declaration.AreRead (l.paint.getD [])

/-- A layer is refused for a fault. One of its paint counts only if all of its layout is read, and
one of either only if the filter is. -/
inductive Refuses (l : Layer) : Fault → Prop
  | filter {cause : FilterFault} :
      Selector.ofFilter l.filter = .error (.malformedFilter cause) →
      Refuses l (.malformedFilter cause)
  | layout {selector : Selector} {name : String} {value : Json} {cause : FunctionFault} :
      Selector.ofFilter l.filter = .ok selector →
      (name, value) ∈ l.layout.getD [] →
      Declaration.ofJson name value = .error (.malformedFunction name cause) →
      Refuses l (.malformedFunction name cause)
  | paint {selector : Selector} {name : String} {value : Json} {cause : FunctionFault} :
      Selector.ofFilter l.filter = .ok selector →
      Declaration.AreRead (l.layout.getD []) →
      (name, value) ∈ l.paint.getD [] →
      Declaration.ofJson name value = .error (.malformedFunction name cause) →
      Refuses l (.malformedFunction name cause)

end Layer

theorem Selector.exists_cause_of_ofFilter {filter : Option Json} {fault : Fault}
    (h : ofFilter filter = .error fault) : ∃ cause, fault = .malformedFilter cause := by
  unfold ofFilter at h
  split at h
  · simp at h
  · simp at h
  · obtain ⟨cause, -, rfl⟩ := Reading.mapError_eq_error.1 h
    exact ⟨cause, rfl⟩

namespace CompiledLayer

section

variable {l : Layer} {defaults : LayerDefaults} (hl : l.HasTables) (hd : defaults.HasTables)

include hl hd

theorem compile_isOk : (∃ c, compile l defaults = .ok c) ↔ l.IsReadable := by
  constructor
  · rintro ⟨c, h⟩
    have hc := compile_eq_ok.1 h
    exact ⟨⟨_, hc.selector⟩, (Evaluator.compileAll_isOk hl.layout hd.layout).1 ⟨_, hc.layout⟩,
      (Evaluator.compileAll_isOk hl.paint hd.paint).1 ⟨_, hc.paint⟩⟩
  · rintro ⟨⟨selector, hselector⟩, hlayout, hpaint⟩
    obtain ⟨layout, hlayout⟩ :=
      (Evaluator.compileAll_isOk (α := Float) hl.layout hd.layout).2 hlayout
    obtain ⟨paint, hpaint⟩ := (Evaluator.compileAll_isOk (α := Float) hl.paint hd.paint).2 hpaint
    exact ⟨⟨l.id, l.kind, l.source, l.sourceLayer, l.minzoom, l.maxzoom, selector, layout, paint⟩,
      compile_eq_ok.2 ⟨rfl, rfl, rfl, rfl, rfl, rfl, hselector, hlayout, hpaint⟩⟩

theorem refuses_of_ofLayer {fault : Fault} (h : ofLayer l defaults = .error fault) :
    l.Refuses fault := by
  rw [ofLayer] at h
  -- Each bind is one of the checks, so what is refused by one has passed those before it.
  obtain hfilter | ⟨selector, hselector, h⟩ := Reading.bind_eq_error.1 h
  · obtain ⟨cause, rfl⟩ := Selector.exists_cause_of_ofFilter hfilter
    exact .filter hfilter
  obtain hlayout | ⟨layout, hlayout, h⟩ := Reading.bind_eq_error.1 h
  · obtain ⟨name, value, cause, hmem, hfault, rfl⟩ :=
      Evaluator.exists_of_compileAll_eq_error hl.layout hd.layout hlayout
    exact .layout hselector hmem hfault
  obtain hpaint | ⟨paint, -, h⟩ := Reading.bind_eq_error.1 h
  · obtain ⟨name, value, cause, hmem, hfault, rfl⟩ :=
      Evaluator.exists_of_compileAll_eq_error hl.paint hd.paint hpaint
    have hread := (Evaluator.compileAll_isOk hl.layout hd.layout).1 ⟨layout, hlayout⟩
    exact .paint hselector hread hmem hfault
  · cases h

theorem refuses_of_compile {fault : Fault} (h : compile l defaults = .error fault) :
    ∃ cause, fault = .inLayer l.id cause ∧ l.Refuses cause := by
  obtain ⟨cause, hcause, rfl⟩ := Reading.mapError_eq_error.1 h
  exact ⟨cause, rfl, refuses_of_ofLayer hl hd hcause⟩

end

section

variable {l l' : Layer} {defaults defaults' : LayerDefaults} {c c' : CompiledLayer}
  (hl : l.HasTables) (hd : defaults.HasTables) (hl' : l'.HasTables) (hd' : defaults'.HasTables)
  (hc : Compiles l defaults c) (hc' : Compiles l' defaults' c')

include hl hd hl' hd' hc hc'

theorem get?_layout_congr {name : String}
    (hdeclared : Table.get? (l.layout.getD []) name = Table.get? (l'.layout.getD []) name)
    (hdefault : defaults.layout.get? name = defaults'.layout.get? name) :
    c.layout.get? name = c'.layout.get? name :=
  (Evaluator.synthesizes_of_compileAll hl.layout hd.layout hc.layout).get?_congr
    (Evaluator.synthesizes_of_compileAll hl'.layout hd'.layout hc'.layout) hdeclared hdefault

theorem get?_paint_congr {name : String}
    (hdeclared : Table.get? (l.paint.getD []) name = Table.get? (l'.paint.getD []) name)
    (hdefault : defaults.paint.get? name = defaults'.paint.get? name) :
    c.paint.get? name = c'.paint.get? name :=
  (Evaluator.synthesizes_of_compileAll hl.paint hd.paint hc.paint).get?_congr
    (Evaluator.synthesizes_of_compileAll hl'.paint hd'.paint hc'.paint) hdeclared hdefault

end

/-- Whether a layer compiles is decided by what it declares, and a fault names the layer and what is
malformed in it. A compiled layer has a property for each name that is declared or has a default,
made of what stands under this name. All else may differ from layer to layer. -/
theorem compile_refused_or_synthesizes {l : Layer} {defaults : LayerDefaults} (hl : l.HasTables)
    (hd : defaults.HasTables) :
    ((∃ c, compile l defaults = .ok c) ↔ l.IsReadable) ∧
    (∀ fault, compile l defaults = .error fault →
      ∃ cause, fault = .inLayer l.id cause ∧ l.Refuses cause) ∧
    ∀ c, compile l defaults = .ok c →
      Evaluator.Synthesizes (l.layout.getD []) defaults.layout c.layout ∧
      Evaluator.Synthesizes (l.paint.getD []) defaults.paint c.paint ∧
      ∀ l' defaults' c', l'.HasTables → defaults'.HasTables → compile l' defaults' = .ok c' →
        ∀ name,
          (Table.get? (l.layout.getD []) name = Table.get? (l'.layout.getD []) name →
            defaults.layout.get? name = defaults'.layout.get? name →
            c.layout.get? name = c'.layout.get? name) ∧
          (Table.get? (l.paint.getD []) name = Table.get? (l'.paint.getD []) name →
            defaults.paint.get? name = defaults'.paint.get? name →
            c.paint.get? name = c'.paint.get? name) := by
  refine ⟨compile_isOk hl hd, fun fault => refuses_of_compile hl hd, fun c hc => ?_⟩
  have hc := compile_eq_ok.1 hc
  refine ⟨Evaluator.synthesizes_of_compileAll hl.layout hd.layout hc.layout,
    Evaluator.synthesizes_of_compileAll hl.paint hd.paint hc.paint, ?_⟩
  intro l' defaults' c' hl' hd' hc' name
  have hc' := compile_eq_ok.1 hc'
  exact ⟨get?_layout_congr hl hd hl' hd' hc hc', get?_paint_congr hl hd hl' hd' hc hc'⟩

/-- A width that follows the zoom level. -/
def widening : Json :=
  .object [("stops", .array
    [.array [Json.natural 10, Json.natural 1], .array [Json.natural 16, Json.natural 8]])]

def mainRoad : Layer :=
  { Layer.ofKind "main-road" .line with
    filter := some (.array [.string "==", .string "class", .string "main"])
    layout := some [("line-cap", .string "round")]
    paint := some [("line-width", widening)] }

def sidewalk : Layer :=
  { Layer.ofKind "sidewalk" .line with
    paint := some [("line-pattern", .string "stripes"), ("line-width", widening)] }

theorem compile_refused_or_synthesizes_widening : ∃ c c',
    compile mainRoad (.ofKind .line) = .ok c ∧ compile sidewalk (.ofKind .line) = .ok c' ∧
      c.paint.get? "line-width" = c'.paint.get? "line-width" := by
  have hline : (LayerDefaults.ofKind .line).HasTables := LayerDefaults.hasTables_ofKind? (some .line)
  have hmain : mainRoad.HasTables := ⟨by decide, by decide⟩
  have hmainReadable : mainRoad.IsReadable :=
    ⟨⟨_, rfl⟩, List.forall_mem_singleton.2 ⟨_, rfl⟩, List.forall_mem_singleton.2 ⟨_, rfl⟩⟩
  have hside : sidewalk.HasTables := ⟨by decide, by decide⟩
  have hsideReadable : sidewalk.IsReadable :=
    ⟨⟨_, rfl⟩, List.forall_mem_nil _,
      List.forall_mem_cons.2 ⟨⟨_, rfl⟩, List.forall_mem_singleton.2 ⟨_, rfl⟩⟩⟩
  obtain ⟨hmainOk, -, hmainAll⟩ := compile_refused_or_synthesizes hmain hline
  obtain ⟨hsideOk, -, -⟩ := compile_refused_or_synthesizes hside hline
  obtain ⟨c, hc⟩ := hmainOk.2 hmainReadable
  obtain ⟨c', hc'⟩ := hsideOk.2 hsideReadable
  obtain ⟨-, -, hlocal⟩ := hmainAll c hc
  exact ⟨c, c', hc, hc', (hlocal sidewalk _ c' hside hline hc' "line-width").2 rfl rfl⟩

end CompiledLayer

end StyledMap
