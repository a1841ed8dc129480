import StyledMap.Proofs.Link.Load
import StyledMap.Proofs.Style

/-! # Strict and lenient

A dangling reference is reported by a lenient compiler or loader, and refused by a strict one.

* `Document.IsLayerFault`: a fault of one of the layers of a document.
* `runWith_strict_eq_lenient` and `runWith_strict_of_dangling`: the two loaders side by side.
* `strict_agrees_or_refuses`: where no reference dangles, strict and lenient are the same, and else
  the strict one names the first reference that dangles, whatever else is wrong.
-/

set_option autoImplicit false

namespace StyledMap

/-- A fault of one of the layers of a document, once its references are resolved. -/
def Document.IsLayerFault (d : Document) (fault : Fault) : Prop :=
  ∃ l ∈ d.layers, CompiledLayer.compile (l.resolved d.layers)
    (LayerDefaults.ofKind? (l.resolved d.layers).kind) = .error fault

namespace Loader

open Layer Session

variable {p : Provider} {input : Input} {r : Resources} {value : Json} {d : Document}

/-! ## The two loaders -/

theorem runWith_strict_eq_lenient
    (h : ∀ value d, input.Gives p r value → Document.ofJson value = .ok d →
      ∀ l ∈ d.layers, dangles d.layers l = false) :
    (load ⟨p, true⟩ input).runWith r = (load ⟨p, false⟩ input).runWith r := by
  obtain ⟨value, hread⟩ | ⟨fault, hfails⟩ := gives_or_fails p r input
  · cases hdoc : Document.ofJson value with
    | error fault =>
      have hrejected (strict : Bool) : (load ⟨p, strict⟩ input).Yields r _ _ :=
        load_yields_of_rejected hread (prepare_of_rejected hdoc)
      rw [(hrejected true).runWith, (hrejected false).runWith]
    | ok d =>
      have hprepared (strict : Bool) : (load ⟨p, strict⟩ input).Yields r _ _ :=
        load_yields_of_prepared hread (prepare_eq_ok hdoc fun _ => h value d hread hdoc)
      rw [(hprepared true).runWith, (hprepared false).runWith]
  · have hunread (strict : Bool) : (load ⟨p, strict⟩ input).Yields r _ _ :=
      load_yields_of_unread hfails
    rw [(hunread true).runWith, (hunread false).runWith]

/-- Nothing but the document is asked for when a strict loader refuses it. -/
theorem runWith_strict_of_dangling {l : Layer} {missing : String}
    (hread : input.Gives p r value) (hdoc : Document.ofJson value = .ok d)
    (hfirst : d.layers.find? (dangles d.layers) = some l) (href : l.reference = some missing) :
    (load ⟨p, true⟩ input).runWith r =
      (.error (.style (.danglingReference l.id missing)), input.asked p) := by
  have hrefused : (load ⟨p, true⟩ input).Yields r _ _ :=
    load_yields_of_rejected hread (prepare_eq_error hdoc hfirst href)
  rw [hrefused.runWith, List.append_nil]

/-- Strict and lenient differ on dangling references only. Where none dangles, a strict compiler
ends as a lenient one does, without diagnostics, or with a fault of a layer; of several layers that
fail either compiler may report any. A strict loader then ends as a lenient one. Where a reference
dangles, a strict compiler and a strict loader both fail with the first layer whose reference
dangles and the id that it names; other faults of the layers do not come first, and the loader has
asked for nothing but the document. -/
theorem strict_agrees_or_refuses (p : Provider) :
    (∀ d : Document,
      ((∀ l ∈ d.layers, dangles d.layers l = false) →
        (∀ choice choice' s, CompiledStyle.compileStrict choice d = .ok s ↔
          CompiledStyle.compile choice' d = .ok s) ∧
        (∀ choice s, CompiledStyle.compile choice d = .ok s → s.diagnostics = []) ∧
        (∀ choice, CompiledStyle.compileStrict choice d = CompiledStyle.compile choice d) ∧
        ∀ fault, (∃ choice, CompiledStyle.compileStrict choice d = .error fault) ↔
          d.IsLayerFault fault) ∧
      ∀ l, d.layers.find? (dangles d.layers) = some l →
        ∃ missing, l.reference = some missing ∧
          ∀ choice,
            CompiledStyle.compileStrict choice d = .error (.danglingReference l.id missing)) ∧
    ∀ (input : Input) (r : Resources),
      ((∀ value d, input.Gives p r value → Document.ofJson value = .ok d →
          ∀ l ∈ d.layers, dangles d.layers l = false) →
        (load ⟨p, true⟩ input).runWith r = (load ⟨p, false⟩ input).runWith r) ∧
      ∀ value d l, input.Gives p r value →
        Document.ofJson value = .ok d → d.layers.find? (dangles d.layers) = some l →
          ∃ missing, l.reference = some missing ∧
            (load ⟨p, true⟩ input).runWith r =
              (.error (.style (.danglingReference l.id missing)), input.asked p) := by
  refine ⟨fun d => ⟨fun hnone => ?_, fun l hfirst => ?_⟩,
    fun input r => ⟨fun hnone => ?_, fun value d l hread hdoc hfirst => ?_⟩⟩
  · have hnil := Resolution.dangling_ofLayers_eq_nil_iff.2 hnone
    have hsame (choice : FaultChoice) :
        CompiledStyle.compileStrict choice d = CompiledStyle.compile choice d :=
      CompiledStyle.compileStrict_eq_compile hnil
    refine ⟨fun choice choice' s => ?_, fun choice s hs => ?_, hsame, fun fault => ?_⟩
    · rw [hsame, CompiledStyle.compile_eq_ok_iff choice choice']
    · rw [(CompiledStyle.compile_eq_ok.1 hs).2, Resolution.diagnostics_eq_nil hnil]
    · simp only [hsame]
      exact CompiledStyle.exists_compile_eq_error
  · obtain ⟨missing, rest, href, hcons⟩ := Resolution.exists_dangling_ofLayers_of_find? hfirst
    exact ⟨missing, href, fun choice => CompiledStyle.compileStrict_eq_error hcons⟩
  · exact runWith_strict_eq_lenient hnone
  · obtain ⟨missing, -, href, -⟩ := Resolution.exists_dangling_ofLayers_of_find? hfirst
    exact ⟨missing, href, runWith_strict_of_dangling hread hdoc hfirst href⟩

/-! ### A ruin

A style with two layers whose filters are none, and two others that name ones that are missing. -/

def walls : Layer :=
  { Layer.ofKind "walls" .line with filter := some (.string "old") }

def floor : Layer :=
  { Layer.ofKind "floor" .fill with filter := some (.array []) }

/-- What is left when nothing dangles. -/
def shell : Document where
  version := 8
  name := none
  sources := [("tiles", ⟨"vector", some "http://ruin/tiles", none, []⟩)]
  layers := [walls, floor]
  sprite := none
  glyphs := none
  extra := []

def ruin : Document :=
  { shell with
    layers := [walls, floor,
      { Layer.ofKind "roof" .fill with reference := some "beams" },
      { Layer.ofKind "door" .fill with reference := some "frame" }] }

theorem strict_agrees_or_refuses_ruin :
    (∃ choice, CompiledStyle.compileStrict choice shell =
      .error (.inLayer "walls" (.malformedFilter (.notArray (.string "old"))))) ∧
    (∃ choice, CompiledStyle.compileStrict choice shell =
      .error (.inLayer "floor" (.malformedFilter .empty))) ∧
    (∀ choice, CompiledStyle.compileStrict choice ruin =
      .error (.danglingReference "roof" "beams")) ∧
    ∀ r, (load ⟨.of "key" "http://api/" 1.0, true⟩ (.value ruin.toJson)).runWith r =
      (.error (.style (.danglingReference "roof" "beams")), []) := by
  obtain ⟨hcompile, hload⟩ := strict_agrees_or_refuses (.of "key" "http://api/" 1.0)
  have hwhole : ∀ l ∈ shell.layers, dangles shell.layers l = false := by decide
  obtain ⟨-, -, -, hfaults⟩ := (hcompile shell).1 hwhole
  obtain ⟨missing, hmissing, hstrict⟩ := (hcompile ruin).2 _ rfl
  obtain rfl : "beams" = missing := Option.some.inj hmissing
  refine ⟨(hfaults _).2 ⟨walls, by simp [shell], rfl⟩, (hfaults _).2 ⟨floor, by simp [shell], rfl⟩,
    hstrict, fun r => ?_⟩
  obtain ⟨missing, hmissing, hrefused⟩ :=
    (hload (.value ruin.toJson) r).2 ruin.toJson ruin _ (.value _) rfl rfl
  obtain rfl : "beams" = missing := Option.some.inj hmissing
  exact hrefused

end Loader

end StyledMap
