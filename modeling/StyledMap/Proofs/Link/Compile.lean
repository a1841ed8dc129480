import StyledMap.Proofs.Link.Reload
import StyledMap.Proofs.Style

/-! # Compiling a loaded style

What is loaded has no references left, so nothing is inherited and no reference is reported when it
is compiled.

* `Diagnostic.problem` and `nodup_problems_arrived`: a load reports a problem once.
* `compile_of_load`: a loaded style is compiled layer by layer, and reports what its load did.
-/

set_option autoImplicit false

namespace StyledMap

/-- What a diagnostic is about. -/
def Diagnostic.problem (d : Diagnostic) : DiagnosticKind × String :=
  (d.kind, d.subject)

theorem Diagnostic.nodup_problems {ds : List Diagnostic} (h : (ds.map subject).Nodup) :
    (ds.map problem).Nodup :=
  List.Nodup.of_map Prod.snd (by rwa [List.map_map])

/-- Diagnostics of different kinds are about different problems. -/
theorem Diagnostic.nodup_problems_append {ds es : List Diagnostic} (hd : (ds.map problem).Nodup)
    (he : (es.map problem).Nodup) (h : ∀ d ∈ ds, ∀ e ∈ es, d.kind ≠ e.kind) :
    ((ds ++ es).map problem).Nodup := by
  rw [List.map_append, List.nodup_append]
  refine ⟨hd, he, fun a ha b hb hab => ?_⟩
  obtain ⟨d, hmd, rfl⟩ := List.mem_map.1 ha
  obtain ⟨e, hme, rfl⟩ := List.mem_map.1 hb
  exact h d hmd e hme (congrArg Prod.fst hab)

namespace Loader

open Session

variable {p : Provider} {r : Resources} {document : Document} {loaded : LoadedStyle}

/-! ## Problems of a load -/

theorem subjects_danglingReports_sublist (document : Document) :
    ((danglingReports document).map Diagnostic.subject).Sublist
      (document.layers.map Layer.id) := by
  have hids : (danglingReports document).map Diagnostic.subject =
      (document.layers.filter (Layer.dangles document.layers)).map Layer.id := by
    refine (Reading.map_eq_map_of_forall₂ (forall₂_danglingReports document) ?_).symm
    rintro l _ - ⟨missing, -, rfl⟩
    rfl
  rw [hids]
  exact List.filter_sublist.map _

theorem nodup_problems_spriteReport (url : Option String)
    (parts : Option (Except LinkFault Raster × Except LinkFault Json)) :
    ((spriteReport url parts).map Diagnostic.problem).Nodup := by
  unfold spriteReport
  split
  · cases url <;> simp
  · cases url <;> simp
  · simp

/-- A load reports a problem once. -/
theorem nodup_problems_arrived (hn : (document.layers.map Layer.id).Nodup)
    (hs : document.sources.IsSorted) :
    ((arrived p r document).diagnostics.map Diagnostic.problem).Nodup := by
  have hdangling : ((danglingReports document).map Diagnostic.problem).Nodup :=
    Diagnostic.nodup_problems (hn.sublist (subjects_danglingReports_sublist document))
  have hsources : ((unavailable ((Flight.launch p document).outcome r).sources).map
      Diagnostic.problem).Nodup := by
    refine Diagnostic.nodup_problems (List.Nodup.sublist (subjects_unavailable_sublist _) ?_)
    rw [keys_outcome_launch]
    exact hs.imp String.ne_of_lt
  rw [diagnostics_arrived]
  refine Diagnostic.nodup_problems_append
    (Diagnostic.nodup_problems_append hdangling hsources ?_)
    (nodup_problems_spriteReport _ _) ?_
  · intro d hd e he
    rw [kind_of_mem_danglingReports hd, kind_of_mem_unavailable he]
    decide
  · intro d hd e he
    rw [kind_of_mem_spriteReport he]
    rcases List.mem_append.1 hd with hd | hd
    · rw [kind_of_mem_danglingReports hd]
      decide
    · rw [kind_of_mem_unavailable hd]
      decide

/-! ## Compiling -/

theorem compile_arrived (p : Provider) (r : Resources) (document : Document)
    (choice : FaultChoice) :
    (arrived p r document).compile choice =
      (CompiledLayer.compileAll choice (arrived p r document).document.layers).map
        fun layers => ⟨layers, (arrived p r document).diagnostics⟩ := by
  rw [LoadedStyle.compile, CompiledStyle.compile_eq, ofLayers_arrived]
  cases CompiledLayer.compileAll choice (arrived p r document).document.layers with
  | error fault => rfl
  | ok layers =>
    -- No reference is left to report.
    change Except.ok (CompiledStyle.mk layers ((arrived p r document).diagnostics ++ [])) = _
    rw [List.append_nil]
    rfl

theorem compile_arrived_eq_ok {choice choice' : FaultChoice} {compiled : CompiledStyle} :
    (arrived p r document).compile choice = .ok compiled ↔
      CompiledLayer.compileAll choice' (arrived p r document).document.layers =
        .ok compiled.layers ∧
      compiled.diagnostics = (arrived p r document).diagnostics := by
  rw [compile_arrived, Reading.map_eq_ok, CompiledLayer.compileAll_eq_ok]
  simp only [CompiledLayer.compileAll_eq_ok]
  constructor
  · rintro ⟨layers, hlayers, rfl⟩
    exact ⟨hlayers, rfl⟩
  · rintro ⟨hlayers, hdiagnostics⟩
    exact ⟨compiled.layers, hlayers, by rw [← hdiagnostics]⟩

/-- Resolving references a second time changes nothing. So a loaded style is compiled when its
layers are, layer by layer, and what it reports is what its load reported, each problem once. -/
theorem compile_of_load :
    (∀ layers, Resolution.ofLayers (Resolution.ofLayers layers).layers =
      ⟨(Resolution.ofLayers layers).layers, []⟩) ∧
    ∀ (loader : Loader) (input : Input) (r : Resources) (loaded : LoadedStyle),
      ((load loader input).runWith r).1 = .ok loaded →
      (∀ choice choice', (∃ compiled, loaded.compile choice = .ok compiled) ↔
        ∃ layers, CompiledLayer.compileAll choice' loaded.document.layers = .ok layers) ∧
      (∀ choice choice' compiled, loaded.compile choice = .ok compiled →
        compiled.diagnostics = loaded.diagnostics ∧
        CompiledLayer.compileAll choice' loaded.document.layers = .ok compiled.layers ∧
        compiled.layers.map CompiledLayer.id = loaded.document.layers.map Layer.id) ∧
      ((∀ value members, ((readDocument loader.provider input).runWith r).1 = .ok value →
          value.member? "sources" = some (.object members) → Table.IsSorted members) →
        (loaded.diagnostics.map Diagnostic.problem).Nodup) := by
  refine ⟨Resolution.ofLayers_again, fun loader input r loaded hload => ?_⟩
  obtain ⟨value, document, hread, hdoc, rfl⟩ := exists_read_of_load hload
  refine ⟨fun choice choice' => ⟨?_, ?_⟩, fun choice choice' compiled hcompiled => ?_,
    fun hsorted => ?_⟩
  · rintro ⟨compiled, hcompiled⟩
    exact ⟨compiled.layers, (compile_arrived_eq_ok.1 hcompiled).1⟩
  · rintro ⟨layers, hlayers⟩
    exact ⟨⟨layers, (arrived loader.provider r document).diagnostics⟩,
      compile_arrived_eq_ok.2 ⟨hlayers, rfl⟩⟩
  · obtain ⟨hlayers, hdiagnostics⟩ := compile_arrived_eq_ok.1 hcompiled
    exact ⟨hdiagnostics, hlayers, CompiledLayer.map_id_of_compileAll hlayers⟩
  · refine nodup_problems_arrived (Document.nodup_of_ofJson hdoc) ?_
    exact Document.isSorted_sources hdoc fun members => hsorted value members hread

theorem compile_of_load_town : ∃ compiled, townLoaded.compile .first = .ok compiled ∧
    compiled.diagnostics = townLoaded.diagnostics ∧
    (townLoaded.diagnostics.map Diagnostic.problem).Nodup ∧
    CompiledLayer.compileAll .first townLoaded.document.layers = .ok compiled.layers ∧
    compiled.layers.map CompiledLayer.id = ["streets", "paths", "parks"] := by
  have hload : ((load ⟨.of "key" "http://api/" 1.0, false⟩ (.value townStyle)).runWith
      townAnswers).1 = .ok townLoaded := rfl
  obtain ⟨compiled, hcompiled⟩ : ∃ compiled, townLoaded.compile .first = .ok compiled := ⟨_, rfl⟩
  obtain ⟨-, hsame, honce⟩ := compile_of_load.2 _ _ _ _ hload
  obtain ⟨hdiagnostics, hlayers, hids⟩ := hsame .first .first compiled hcompiled
  refine ⟨compiled, hcompiled, hdiagnostics, honce fun value members hread hmembers => ?_, hlayers,
    hids⟩
  obtain rfl : townStyle = value := Except.ok.inj hread
  obtain rfl := Json.object.inj (Option.some.inj hmembers)
  decide

end Loader

end StyledMap
