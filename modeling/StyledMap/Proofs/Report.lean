import StyledMap.Report
import StyledMap.Proofs.Evaluator.Dependence
import StyledMap.Proofs.Evaluator.Tables
import StyledMap.Proofs.Layer.Compiled

/-! # What reports say of functions

A report has the values of the layout and of the paint of a layer, and one table for the kinds of
both. A property of both has one entry in it, the kind of its paint.

* `get?_evaluateAll_of_agrees`: a value is the same in two views that agree on what it depends on.
* `get?_functions`: the kind that a report names for a property.
* `paint_eq_of_agrees` and `layout_eq_of_agrees`: the kind is true of the paint. It is true of the
  layout as well, unless the paint has another kind than a function of the layout.
* `entries_eq_of_agrees`: these facts about the reports of a compiled layer, put together.
-/

set_option autoImplicit false

namespace StyledMap.LayerReport

open Evaluator (Agrees kindNames)

variable {c : CompiledLayer} {name : String} {zoom zoom' : Float} {f f' : Feature}

theorem get?_evaluateAll_of_agrees {table : Table (Evaluator Float)}
    (h : ∀ kind ∈ (kindNames table).get? name, Agrees kind zoom zoom' f f') :
    (evaluateAll table zoom f).get? name = (evaluateAll table zoom' f').get? name := by
  rw [kindNames, Table.get?_mapValues] at h
  rw [evaluateAll, evaluateAll, Table.get?_mapValues, Table.get?_mapValues]
  cases he : table.get? name with
  | none => rw [Option.map_none, Option.map_none]
  | some e =>
    rw [he, Option.map_some] at h
    rw [Option.map_some, Option.map_some, Evaluator.evaluate_of_agrees (h e.kindName rfl)]

theorem get?_functions (hp : c.paint.IsSorted) : (of c zoom f).functions.get? name =
    ((kindNames c.paint).get? name).or ((kindNames c.layout).get? name) := by
  have hkinds : (kindNames c.paint).IsSorted := hp.mapValues Evaluator.kindName
  rw [of, Table.get?_extend, hkinds.lookup_reverse]

section

variable {kind : String} (hp : c.paint.IsSorted)
  (hk : (of c zoom f).functions.get? name = some kind) (h : Agrees kind zoom zoom' f f')

include hp hk h

theorem paint_eq_of_agrees :
    (of c zoom f).paint.get? name = (of c zoom' f').paint.get? name := by
  refine get?_evaluateAll_of_agrees fun own hown => ?_
  -- A kind of the paint is the one that is named.
  rw [get?_functions hp, hown, Option.some_or] at hk
  rwa [Option.some.inj hk]

theorem layout_eq_of_agrees (hlayout : c.paint.get? name = none ∨
      ∀ own ∈ (kindNames c.layout).get? name, own = "constant" ∨ own = kind) :
    (of c zoom f).layout.get? name = (of c zoom' f').layout.get? name := by
  refine get?_evaluateAll_of_agrees fun own hown => ?_
  obtain hnone | hall := hlayout
  · have hpaint : (kindNames c.paint).get? name = none := by
      rw [kindNames, Table.get?_mapValues, hnone, Option.map_none]
    rw [get?_functions hp, hpaint, Option.none_or, hown] at hk
    rwa [Option.some.inj hk]
  · obtain rfl | rfl := hall own hown
    · exact .inl rfl
    · exact h

end

/-- All reports of a compiled layer name the same kind for a property, that of its paint if it has
one. The kind is true of its paint. It is true of its layout if there is no paint of this name, or if
the layout is constant or has the same kind. -/
theorem entries_eq_of_agrees {l : Layer} {defaults : LayerDefaults}
    (hc : CompiledLayer.compile l defaults = .ok c) (name : String) :
    (∀ zoom f, (of c zoom f).functions.get? name =
      ((kindNames c.paint).get? name).or ((kindNames c.layout).get? name)) ∧
    ∀ kind zoom zoom' f f', (of c zoom f).functions.get? name = some kind →
      Agrees kind zoom zoom' f f' →
        (of c zoom f).paint.get? name = (of c zoom' f').paint.get? name ∧
        ((c.paint.get? name = none ∨
            ∀ own ∈ (kindNames c.layout).get? name, own = "constant" ∨ own = kind) →
          (of c zoom f).layout.get? name = (of c zoom' f').layout.get? name) := by
  have hcompiles := CompiledLayer.compile_eq_ok.1 hc
  have hp : c.paint.IsSorted := Evaluator.isSorted_of_compileAll hcompiles.paint
  refine ⟨fun zoom f => get?_functions hp, fun kind zoom zoom' f f' hk h => ?_⟩
  exact ⟨paint_eq_of_agrees hp hk h, layout_eq_of_agrees hp hk h⟩

/-- The stages of a light that glows from the tenth zoom level on. -/
def stages : Json :=
  .object [("stops", .array [.array [Json.natural 0, .string "dim"],
    .array [Json.natural 10, .string "bright"]])]

def lamp : Layer :=
  { Layer.ofKind "lamp" (.other "light") with
    layout := some [("glow", stages), ("shade", stages)]
    paint := some [("glow", .string "warm")] }

theorem entries_eq_of_agrees_lamp : ∃ c,
    CompiledLayer.compile lamp (.ofKind? lamp.kind) = .ok c ∧
      ∀ f f', (of c 12 f).layout.get? "shade" = (of c 12 f').layout.get? "shade" := by
  obtain ⟨c, hc, hshade, hpaint⟩ : ∃ c, CompiledLayer.compile lamp (.ofKind? lamp.kind) = .ok c ∧
      (∀ f, (of c 12 f).functions.get? "shade" = some "zoom") ∧ c.paint.get? "shade" = none :=
    ⟨_, rfl, fun _ => rfl, rfl⟩
  refine ⟨c, hc, fun f f' => ?_⟩
  have hzoom : Agrees "zoom" (12 : Float) 12 f f' := .inr (.inl ⟨rfl, rfl⟩)
  obtain ⟨-, hentries⟩ := entries_eq_of_agrees hc "shade"
  obtain ⟨-, hlayout⟩ := hentries "zoom" 12 12 f f' (hshade f) hzoom
  exact hlayout (.inl hpaint)

/-- A function of the zoom level that is named constant, as the paint of its name is. -/
theorem layout_changes_lamp : ∃ c, CompiledLayer.compile lamp (.ofKind? lamp.kind) = .ok c ∧
    (of c 0 (Feature.blank .point)).functions.get? "glow" = some "constant" ∧
    (of c 0 (Feature.blank .point)).layout.get? "glow" = some (.string "dim") ∧
    (of c 12 (Feature.blank .point)).layout.get? "glow" = some (.string "bright") :=
  ⟨_, rfl, rfl, rfl, rfl⟩

end StyledMap.LayerReport
