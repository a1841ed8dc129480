import StyledMap.Proofs.Json
import StyledMap.Proofs.Layer.Inheritance
import StyledMap.Proofs.Link.Provider
import StyledMap.Proofs.Link.Requests
import StyledMap.Proofs.Merging

/-! # Loading a loaded style

A style that was loaded can be written and loaded again. When every address answers as it did, the
second load finds nothing left to do.

* `Resources.HasTables`: every object that is answered has its members in the order of their names.
* `expands_again`: a source that was had is had again, as it is.
* `wellFormed_arrived` and `ofJson_arrived`: what was loaded is read back from what is written of
  it.
* `load_again`: a loaded style is loaded again, and only the sprite is reported again.
-/

set_option autoImplicit false

namespace StyledMap

attribute [ext] LoadedStyle

/-! ## Answers -/

/-- Every object that is answered has each member once, in the order of their names, as any object
has that is read from a text. -/
def Resources.HasTables (r : Resources) : Prop :=
  ∀ url members, r.json url = .ok (.object members) → Table.IsSorted members

theorem Resources.hasTables_of_parse? {r : Resources}
    (h : ∀ url value, r.json url = .ok value → ∃ text, Json.parse? text = some value) :
    r.HasTables := by
  intro url members hr
  obtain ⟨text, htext⟩ := h url _ hr
  exact (Json.isOrdered_object.1 (Json.isOrdered_of_parse? htext)).1

/-! ## Layers -/

namespace Layer

variable {layers : List Layer} {l parent out : Layer}

theorem wellFormed_of_inheritsFrom (hl : l.WellFormed) (hp : parent.WellFormed)
    (h : InheritsFrom l parent out) : out.WellFormed where
  kind := by
    rcases h.kind.eq_or_eq with hk | hk
    · rw [hk]
      exact hp.kind
    · rw [hk]
      exact hl.kind
  filter := by
    rcases h.filter.eq_or_eq with hf | hf
    · rw [hf]
      exact hp.filter
    · rw [hf]
      exact hl.filter
  extra := by
    rw [h.extra]
    exact hl.extra

theorem wellFormed_of_resolves (h : ∀ m ∈ layers, m.WellFormed) (hl : l.WellFormed)
    (hr : Resolves layers l out) : out.WellFormed := by
  cases hr with
  | alone _ => exact hl
  | named _ hlast hout =>
    obtain ⟨before, after, heq, -, -⟩ := hlast
    exact wellFormed_of_inheritsFrom hl (h _ (by rw [heq]; simp)) hout
  | dangling _ _ => exact ⟨hl.kind, hl.filter, hl.extra⟩

end Layer

theorem Resolution.wellFormed_of_mem_ofLayers {layers : List Layer}
    (h : ∀ m ∈ layers, m.WellFormed) {l : Layer} (hl : l ∈ (ofLayers layers).layers) :
    l.WellFormed := by
  obtain ⟨m, hm, rfl⟩ := List.mem_map.1 hl
  exact Layer.wellFormed_of_resolves h (h m hm) (Layer.resolves_resolved layers m)

namespace Loader

variable {p : Provider} {r : Resources} {s s' : Source} {document : Document}

/-! ## Sources -/

theorem ne_null_of_isGeoJsonData {data : Json} (h : isGeoJsonData data) : data ≠ .null := by
  rintro rfl
  obtain ⟨type, htype⟩ := h
  cases htype

theorem wellFormed_of_expands (hs : s.WellFormed) (h : Expands p r s s') : s'.WellFormed := by
  cases h with
  | geoJson _ hok _ =>
    exact ⟨fun hnull => ne_null_of_isGeoJsonData hok (Option.some.inj hnull), hs.extra⟩
  | unlinked => exact hs
  | merged _ _ _ hm => exact Source.wellFormed_of_mergedWith hm

/-- A source that was had is had again, as it is. -/
theorem expands_again (hr : r.HasTables) (hs : s.WellFormed) (h : Expands p r s s') :
    Expands p r s' s' := by
  cases h with
  | geoJson hg hok _ =>
    -- What was fetched is now the source's own data.
    exact .geoJson hg hok (.inl rfl)
  | unlinked hg hu => exact .unlinked hg hu
  | merged hg hu hanswer hm =>
    have htype : s'.type = s.type := Source.type_of_mergedWith (hs.extra _ (by decide)) hm
    have hg' : ¬ s'.isGeoJson = true := by rwa [Source.isGeoJson, htype]
    have hu' := Source.url_of_mergedWith hs hu hm
    exact .merged hg' hu' hanswer (Source.mergedWith_again (hr _ _ hanswer) hs hm)

/-! ## What was loaded -/

theorem expands_of_mem_arrived {id : String}
    (h : (id, s') ∈ (arrived p r document).document.sources) :
    ∃ s, (id, s) ∈ document.sources ∧ Expands p r s s' := by
  rw [sources_arrived, mem_available_iff, mem_outcome_launch] at h
  obtain ⟨s, hs, hresult⟩ := h
  rw [expandSource_result] at hresult
  exact ⟨s, hs, expands_of_result hresult⟩

theorem wellFormed_arrived (hd : document.WellFormed) :
    (arrived p r document).document.WellFormed where
  sources entry he := by
    obtain ⟨s, hs, hx⟩ := expands_of_mem_arrived he
    exact wellFormed_of_expands (hd.sources _ hs) hx
  layers l hl := Resolution.wellFormed_of_mem_ofLayers hd.layers hl
  extra := hd.extra

/-- What was loaded is read back from what is written of it. -/
theorem ofJson_arrived {value : Json} (h : Document.ofJson value = .ok document) :
    Document.ofJson (arrived p r document).document.toJson =
      .ok (arrived p r document).document := by
  refine Document.ofJson_toJson (wellFormed_arrived (Document.wellFormed_of_ofJson h)) ?_
  exact Document.validate_congr (Document.validate_of_ofJson h) rfl
    (Resolution.map_id_ofLayers document.layers)

theorem ofLayers_arrived : Resolution.ofLayers (arrived p r document).document.layers =
    ⟨(arrived p r document).document.layers, []⟩ :=
  Resolution.ofLayers_again document.layers

/-! ## What is loaded again -/

theorem sources_outcome_again (hr : r.HasTables) (hd : document.WellFormed) :
    ((Flight.launch p (arrived p r document).document).outcome r).sources =
      (arrived p r document).document.sources.map fun entry => (entry.1, .ok entry.2) := by
  rw [sources_outcome_launch]
  refine List.map_congr_left fun entry he => ?_
  obtain ⟨s, hs, hx⟩ := expands_of_mem_arrived he
  rw [result_of_expands (expands_again hr (hd.sources _ hs) hx)]

theorem available_map_ok (sources : Table Source) :
    available (sources.map fun entry => (entry.1, .ok entry.2)) = sources := by
  unfold available
  rw [List.filterMap_map]
  exact List.filterMap_some

theorem unavailable_map_ok (sources : Table Source) :
    unavailable (sources.map fun entry => (entry.1, .ok entry.2)) = [] := by
  unfold unavailable
  rw [List.filterMap_map]
  exact List.filterMap_eq_nil_iff.2 fun _ _ => rfl

theorem filter_diagnostics_arrived :
    (arrived p r document).diagnostics.filter (fun d => d.kind = .spriteUnavailable) =
      spriteReport document.sprite ((Flight.launch p document).outcome r).sprite := by
  have hd : (danglingReports document).filter (fun d => d.kind = .spriteUnavailable) = [] :=
    List.filter_eq_nil_iff.2 fun d h => by rw [kind_of_mem_danglingReports h]; decide
  have hu : (unavailable ((Flight.launch p document).outcome r).sources).filter
      (fun d => d.kind = .spriteUnavailable) = [] :=
    List.filter_eq_nil_iff.2 fun d h => by rw [kind_of_mem_unavailable h]; decide
  rw [diagnostics_arrived, List.filter_append, List.filter_append, hd, hu, List.nil_append,
    List.nil_append]
  refine List.filter_eq_self.2 fun d h => ?_
  rw [kind_of_mem_spriteReport h]
  decide

theorem glyphs_again (hp : p.IsApart) :
    (arrived p r document).document.glyphs.map p.glyphUrl =
      (arrived p r document).document.glyphs := by
  change (document.glyphs.map p.glyphUrl).map p.glyphUrl = document.glyphs.map p.glyphUrl
  rw [Option.map_map]
  exact congrFun (congrArg _ (funext hp.glyphUrl_glyphUrl)) _

theorem sprite_outcome_again :
    ((Flight.launch p (arrived p r document).document).outcome r).sprite =
      ((Flight.launch p document).outcome r).sprite := by
  rw [sprite_outcome_launch, sprite_outcome_launch]
  rfl

/-- What has arrived arrives again from its own document, and only its sprite is reported. -/
theorem arrived_again (hp : p.IsApart) (hr : r.HasTables) (hd : document.WellFormed) :
    arrived p r (arrived p r document).document =
      { arrived p r document with
        diagnostics := (arrived p r document).diagnostics.filter fun d =>
          d.kind = .spriteUnavailable } := by
  have hresolved : resolved (arrived p r document).document = (arrived p r document).document := by
    rw [resolved, ofLayers_arrived]
  have hdangling : danglingReports (arrived p r document).document = [] := by
    rw [danglingReports, ofLayers_arrived]
    rfl
  have hsources := sources_outcome_again (p := p) hr hd
  have hdocument : (arrived p r (arrived p r document).document).document =
      (arrived p r document).document := by
    rw [arrived, assemble]
    simp only [hresolved, glyphs_again hp, hsources, available_map_ok]
  have hsprite : (arrived p r (arrived p r document).document).sprite =
      (arrived p r document).sprite := congrArg spriteOf sprite_outcome_again
  have hdiagnostics : (arrived p r (arrived p r document).document).diagnostics =
      (arrived p r document).diagnostics.filter fun d => d.kind = .spriteUnavailable := by
    rw [diagnostics_arrived, hdangling, hsources, unavailable_map_ok, sprite_outcome_again,
      filter_diagnostics_arrived]
    rfl
  exact LoadedStyle.ext hdocument hsprite hdiagnostics

theorem exists_read_of_load {loader : Loader} {input : Input} {loaded : LoadedStyle}
    (h : ((load loader input).runWith r).1 = .ok loaded) :
    ∃ value document, ((readDocument loader.provider input).runWith r).1 = .ok value ∧
      Document.ofJson value = .ok document ∧ loaded = arrived loader.provider r document := by
  obtain ⟨fault, hrefused⟩ | ⟨value, document, hgives, hdoc, hd⟩ :=
    refused_or_gives loader r input
  · rw [load_of_refused hrefused] at h
    cases h
  · rw [load_of_gives hgives hdoc hd] at h
    exact ⟨value, document, readDocument_eq_ok.2 hgives, hdoc, (Except.ok.inj h).symm⟩

theorem exists_of_load {loader : Loader} {input : Input} {loaded : LoadedStyle}
    (h : ((load loader input).runWith r).1 = .ok loaded) :
    ∃ value document, Document.ofJson value = .ok document ∧
      loaded = arrived loader.provider r document := by
  obtain ⟨value, document, -, hdoc, harrived⟩ := exists_read_of_load h
  exact ⟨value, document, hdoc, harrived⟩

/-- A loaded style is loaded again from what is written of it, by a strict loader too. Nothing but
the sprite is reported, and that as it was the first time. -/
theorem load_again (token root : String) (ratio : Float) (strict again : Bool) (input : Input)
    (r : Resources) (loaded : LoadedStyle)
    (hroot : ∀ rest, Provider.trimRoot root ≠ "mapbox://" ++ rest) (hr : r.HasTables)
    (hload : ((load ⟨.of token root ratio, strict⟩ input).runWith r).1 = .ok loaded) :
    ((load ⟨.of token root ratio, again⟩ (.value loaded.document.toJson)).runWith r).1 =
      .ok { loaded with
        diagnostics := loaded.diagnostics.filter fun d => d.kind = .spriteUnavailable } := by
  obtain ⟨value, document, hdoc, rfl⟩ := exists_of_load hload
  have hread := ofJson_arrived (p := .of token root ratio) (r := r) hdoc
  have hagain := arrived_again (Provider.isApart_of token ratio hroot) hr
    (Document.wellFormed_of_ofJson hdoc)
  rw [runWith_of_accepted hread fun _ => Resolution.dangling_ofLayers_eq_nil_iff.1
    (by rw [ofLayers_arrived])]
  exact congrArg Except.ok hagain

/-! ### A town -/

theorem hasTables_townAnswers : townAnswers.HasTables := by
  intro url members h
  unfold townAnswers at h
  simp only at h
  split at h
  · obtain rfl := Json.object.inj (Except.ok.inj h)
    decide
  · split at h
    · obtain rfl := Json.object.inj (Except.ok.inj h)
      decide
    · cases h

theorem load_again_town :
    ((load ⟨.of "key" "http://api/" 1.0, true⟩ (.value townLoaded.document.toJson)).runWith
      townAnswers).1 = .ok { townLoaded with
        diagnostics := [⟨.spriteUnavailable, "http://town/sprite",
          "HTTP 404 fetching http://town/sprite.png"⟩] } := by
  have hroot : ∀ rest, Provider.trimRoot "http://api/" ≠ "mapbox://" ++ rest :=
    Text.afterString?_eq_none.1 rfl
  have hload : ((load ⟨.of "key" "http://api/" 1.0, false⟩ (.value townStyle)).runWith
      townAnswers).1 = .ok townLoaded := rfl
  exact load_again "key" "http://api/" 1.0 false true (.value townStyle) townAnswers townLoaded
    hroot hasTables_townAnswers hload

end Loader

end StyledMap
