import StyledMap.Proofs.Fields
import StyledMap.Proofs.Style

/-! # Values that are documents

What a value must be like to be read as a document is said of the value alone: the members that a
document, its sources and its layers must have or may have, its version, and the ids of its layers.

* `Document.IsShaped`: the shape of a document, and `Document.exists_ofShape?`: it is what can be
  read, apart from the version and the ids.
* `Document.IsFirstRepeated` and `Document.firstRepeated?_eq_some`: the id that is reported is the
  first that occurs earlier.
* `Document.ofJson_iff_shaped`: which values are read, which fault the others have, and that each
  layer of what is read is found under its id.
-/

set_option autoImplicit false

namespace StyledMap

/-! ## Shapes -/

/-- The members of a source. -/
structure Source.HasShape (members : Table Json) : Prop where
  type : Json.Has members "type" Json.IsString
  url : Json.MayHave members "url" Json.IsString

theorem Source.exists_ofJson? {v : Json} :
    (∃ s, ofJson? v = some s) ↔ v.IsObject HasShape := by
  constructor
  · rintro ⟨s, h⟩
    obtain ⟨members, hm, h⟩ := Option.bind_eq_some_iff.1 h
    obtain ⟨htype, hurl, -⟩ := ofMembers?_eq_some.1 h
    exact ⟨members, Json.asMembers?_eq_some.1 hm, Json.exists_required_string.1 ⟨_, htype⟩,
      Json.exists_optional_string.1 ⟨_, hurl⟩⟩
  · rintro ⟨members, rfl, h⟩
    obtain ⟨type, htype⟩ := Json.exists_required_string.2 h.type
    obtain ⟨url, hurl⟩ := Json.exists_optional_string.2 h.url
    exact ⟨⟨type, url, _, _⟩,
      ofMembers?_eq_some.2 ⟨htype, hurl, Json.optional?_some_eq_some.2 rfl, rfl⟩⟩

/-- The members of a layer; its filter may be anything. -/
structure Layer.HasShape (members : Table Json) : Prop where
  id : Json.Has members "id" Json.IsString
  type : Json.MayHave members "type" Json.IsString
  reference : Json.MayHave members "ref" Json.IsString
  source : Json.MayHave members "source" Json.IsString
  sourceLayer : Json.MayHave members "source-layer" Json.IsString
  minzoom : Json.MayHave members "minzoom" Json.IsNumber
  maxzoom : Json.MayHave members "maxzoom" Json.IsNumber
  layout : Json.MayHave members "layout" (Json.IsObject fun _ => True)
  paint : Json.MayHave members "paint" (Json.IsObject fun _ => True)

theorem Layer.exists_optional_kind {members : Table Json} {key : String} :
    (∃ kind, Json.optional? readKind? members key = some kind) ↔
      Json.MayHave members key Json.IsString := by
  refine Json.exists_optional? fun v => ?_
  simp only [readKind?, Option.map_eq_some_iff, ← Json.exists_asString?]
  exact ⟨fun ⟨_, s, hs, _⟩ => ⟨s, hs⟩, fun ⟨s, hs⟩ => ⟨_, s, hs, rfl⟩⟩

theorem Layer.exists_ofJson? {v : Json} : (∃ l, ofJson? v = some l) ↔ v.IsObject HasShape := by
  constructor
  · rintro ⟨l, h⟩
    obtain ⟨members, hm, h⟩ := Option.bind_eq_some_iff.1 h
    obtain ⟨hid, htype, href, hsource, hsourceLayer, hmin, hmax, -, hlayout, hpaint, -⟩ :=
      ofMembers?_eq_some.1 h
    exact ⟨members, Json.asMembers?_eq_some.1 hm, {
      id := Json.exists_required_string.1 ⟨_, hid⟩
      type := exists_optional_kind.1 ⟨_, htype⟩
      reference := Json.exists_optional_string.1 ⟨_, href⟩
      source := Json.exists_optional_string.1 ⟨_, hsource⟩
      sourceLayer := Json.exists_optional_string.1 ⟨_, hsourceLayer⟩
      minzoom := Json.exists_optional_number.1 ⟨_, hmin⟩
      maxzoom := Json.exists_optional_number.1 ⟨_, hmax⟩
      layout := Json.exists_optional_object.1 ⟨_, hlayout⟩
      paint := Json.exists_optional_object.1 ⟨_, hpaint⟩ }⟩
  · rintro ⟨members, rfl, h⟩
    obtain ⟨id, hid⟩ := Json.exists_required_string.2 h.id
    obtain ⟨kind, htype⟩ := exists_optional_kind.2 h.type
    obtain ⟨reference, href⟩ := Json.exists_optional_string.2 h.reference
    obtain ⟨source, hsource⟩ := Json.exists_optional_string.2 h.source
    obtain ⟨sourceLayer, hsourceLayer⟩ := Json.exists_optional_string.2 h.sourceLayer
    obtain ⟨minzoom, hmin⟩ := Json.exists_optional_number.2 h.minzoom
    obtain ⟨maxzoom, hmax⟩ := Json.exists_optional_number.2 h.maxzoom
    obtain ⟨layout, hlayout⟩ := Json.exists_optional_object.2 h.layout
    obtain ⟨paint, hpaint⟩ := Json.exists_optional_object.2 h.paint
    exact ⟨⟨id, kind, reference, source, sourceLayer, minzoom, maxzoom, _, layout, paint, _⟩,
      ofMembers?_eq_some.2 ⟨hid, htype, href, hsource, hsourceLayer, hmin, hmax,
        Json.optional?_some_eq_some.2 rfl, hlayout, hpaint, rfl⟩⟩

namespace Document

/-- The members of a document. -/
structure HasShape (members : Table Json) : Prop where
  version : Json.Has members "version" Json.IsNatural
  name : Json.MayHave members "name" Json.IsString
  sources : Json.Has members "sources"
    (Json.IsObject fun sources => ∀ entry ∈ sources, entry.2.IsObject Source.HasShape)
  layers : Json.Has members "layers" (Json.IsArray (Json.IsObject Layer.HasShape))
  sprite : Json.MayHave members "sprite" Json.IsString
  glyphs : Json.MayHave members "glyphs" Json.IsString

/-- A value has the shape of a document. -/
def IsShaped (value : Json) : Prop :=
  value.IsObject HasShape

theorem readVersion?_eq_some {v : Json} {version : UInt64} :
    readVersion? v = some version ↔ v = .number (.natural version) := by
  unfold readVersion?
  split
  · next n => simp
  · next hne =>
    constructor
    · intro h
      cases h
    · intro h
      exact absurd h (hne version)

theorem exists_readVersion? {v : Json} : (∃ version, readVersion? v = some version) ↔ v.IsNatural :=
  exists_congr fun _ => readVersion?_eq_some

theorem exists_readSources? {v : Json} : (∃ sources, readSources? v = some sources) ↔
    v.IsObject fun sources => ∀ entry ∈ sources, entry.2.IsObject Source.HasShape := by
  have hentry (entry : String × Json) :
      (∃ out, (do return (entry.1, ← Source.ofJson? entry.2)) = some out) ↔
        entry.2.IsObject Source.HasShape := by
    rw [← Source.exists_ofJson?]
    cases Source.ofJson? entry.2 <;> simp
  constructor
  · rintro ⟨sources, h⟩
    obtain ⟨members, hm, h⟩ := Option.bind_eq_some_iff.1 h
    exact ⟨members, Json.asMembers?_eq_some.1 hm, fun entry he =>
      (hentry entry).1 (Reading.exists_mapM.1 ⟨_, h⟩ entry he)⟩
  · rintro ⟨members, rfl, h⟩
    exact Reading.exists_mapM.2 fun entry he => (hentry entry).2 (h entry he)

theorem exists_readLayers? {v : Json} : (∃ layers, readLayers? v = some layers) ↔
    v.IsArray (Json.IsObject Layer.HasShape) := by
  constructor
  · rintro ⟨layers, h⟩
    obtain ⟨items, hi, h⟩ := Option.bind_eq_some_iff.1 h
    exact ⟨items, Json.asItems?_eq_some.1 hi, fun item hm =>
      Layer.exists_ofJson?.1 (Reading.exists_mapM.1 ⟨_, h⟩ item hm)⟩
  · rintro ⟨items, rfl, h⟩
    exact Reading.exists_mapM.2 fun item hm => Layer.exists_ofJson?.2 (h item hm)

/-- What has the shape of a document can be read, apart from validation. -/
theorem exists_ofShape? {value : Json} : (∃ d, ofShape? value = some d) ↔ IsShaped value := by
  constructor
  · rintro ⟨d, h⟩
    obtain ⟨members, hm, hversion, hname, hsources, hlayers, hsprite, hglyphs, -⟩ :=
      ofShape?_eq_some.1 h
    exact ⟨members, Json.asMembers?_eq_some.1 hm, {
      version := (Json.exists_required? fun _ => exists_readVersion?).1 ⟨_, hversion⟩
      name := Json.exists_optional_string.1 ⟨_, hname⟩
      sources := (Json.exists_required? fun _ => exists_readSources?).1 ⟨_, hsources⟩
      layers := (Json.exists_required? fun _ => exists_readLayers?).1 ⟨_, hlayers⟩
      sprite := Json.exists_optional_string.1 ⟨_, hsprite⟩
      glyphs := Json.exists_optional_string.1 ⟨_, hglyphs⟩ }⟩
  · rintro ⟨members, rfl, h⟩
    obtain ⟨version, hversion⟩ := (Json.exists_required? fun _ => exists_readVersion?).2 h.version
    obtain ⟨name, hname⟩ := Json.exists_optional_string.2 h.name
    obtain ⟨sources, hsources⟩ := (Json.exists_required? fun _ => exists_readSources?).2 h.sources
    obtain ⟨layers, hlayers⟩ := (Json.exists_required? fun _ => exists_readLayers?).2 h.layers
    obtain ⟨sprite, hsprite⟩ := Json.exists_optional_string.2 h.sprite
    obtain ⟨glyphs, hglyphs⟩ := Json.exists_optional_string.2 h.glyphs
    exact ⟨⟨version, name, sources, layers, sprite, glyphs, _⟩, ofShape?_eq_some.2
      ⟨members, rfl, hversion, hname, hsources, hlayers, hsprite, hglyphs, rfl⟩⟩

/-! ## Version and ids -/

def HasVersion (value : Json) (version : UInt64) : Prop :=
  value.member? "version" = some (.number (.natural version))

/-- The ids of the layers in a value, in drawing order. -/
def layerIds (value : Json) : List String :=
  match value.member? "layers" with
  | some (.array items) => items.filterMap fun item => (item.member? "id").bind Json.asString?
  | _ => []

theorem hasVersion_iff {value : Json} {d : Document} (h : ofShape? value = some d)
    (version : UInt64) : HasVersion value version ↔ d.version = version := by
  obtain ⟨members, hm, hversion, -⟩ := ofShape?_eq_some.1 h
  obtain ⟨v, hget, hread⟩ := Option.bind_eq_some_iff.1 hversion
  obtain rfl := readVersion?_eq_some.1 hread
  rw [HasVersion, Json.member?, hm, Option.bind_some, hget]
  simp

theorem filterMap_ids {items : List Json} {layers : List Layer}
    (h : List.Forall₂ (fun item l => Layer.ofJson? item = some l) items layers) :
    (items.filterMap fun item => (item.member? "id").bind Json.asString?) =
      layers.map Layer.id := by
  induction h with
  | nil => rfl
  | @cons item l items layers hl _ ih =>
    obtain ⟨members, hm, hl⟩ := Option.bind_eq_some_iff.1 hl
    have hid : (item.member? "id").bind Json.asString? = some l.id := by
      rw [Json.member?, hm, Option.bind_some]
      exact (Layer.ofMembers?_eq_some.1 hl).1
    rw [List.filterMap_cons, hid, List.map_cons, ih]

theorem layerIds_eq {value : Json} {d : Document} (h : ofShape? value = some d) :
    layerIds value = d.layers.map Layer.id := by
  obtain ⟨members, hm, -, -, -, hlayers, -⟩ := ofShape?_eq_some.1 h
  obtain ⟨v, hget, hread⟩ := Option.bind_eq_some_iff.1 hlayers
  obtain ⟨items, hi, hread⟩ := Option.bind_eq_some_iff.1 hread
  rw [layerIds, Json.member?, hm, Option.bind_some, hget, Json.asItems?_eq_some.1 hi]
  exact filterMap_ids (Reading.mapM_eq_some.1 hread)

/-- An id occurs earlier in a list, and it is the first that does. -/
def IsFirstRepeated (ids : List String) (id : String) : Prop :=
  ∃ before after, ids = before ++ id :: after ∧ id ∈ before ∧ before.Nodup

/-- What is seen so far is without repetition, so the first id that is among it is reported. -/
theorem firstRepeated?_eq_some {seen ids : List String} {id : String} :
    firstRepeated? seen ids = some id ↔
      ∃ before after, ids = before ++ id :: after ∧ (id ∈ seen ∨ id ∈ before) ∧
        before.Nodup ∧ ∀ other ∈ before, other ∉ seen := by
  induction ids generalizing seen with
  | nil => simp [firstRepeated?]
  | cons first ids ih =>
    rw [firstRepeated?]
    by_cases hseen : first ∈ seen
    · rw [if_pos (List.contains_iff_mem.2 hseen), Option.some_inj]
      constructor
      · rintro rfl
        exact ⟨[], ids, rfl, .inl hseen, List.nodup_nil, by simp⟩
      · rintro ⟨before, after, heq, -, -, hfresh⟩
        cases before with
        | nil => exact (List.cons.inj heq).1
        | cons other before =>
          obtain ⟨rfl, -⟩ := List.cons.inj heq
          exact absurd hseen (hfresh first List.mem_cons_self)
    · rw [if_neg (by simpa using hseen), ih]
      constructor
      · rintro ⟨before, after, rfl, hid, hnodup, hfresh⟩
        refine ⟨first :: before, after, rfl, ?_, ?_, ?_⟩
        · rw [List.mem_cons] at hid ⊢
          tauto
        · exact List.nodup_cons.2
            ⟨fun hm => hfresh first hm List.mem_cons_self, hnodup⟩
        · exact List.forall_mem_cons.2
            ⟨hseen, fun other hm hs => hfresh other hm (List.mem_cons_of_mem _ hs)⟩
      · rintro ⟨before, after, heq, hid, hnodup, hfresh⟩
        cases before with
        | nil =>
          -- The first id is not seen, so it is not the one that is repeated.
          obtain ⟨rfl, -⟩ := List.cons.inj heq
          exact absurd hid (by simpa using hseen)
        | cons other before =>
          obtain ⟨rfl, rfl⟩ := List.cons.inj heq
          obtain ⟨hfirst, hnodup⟩ := List.nodup_cons.1 hnodup
          refine ⟨before, after, rfl, ?_, hnodup, fun other hm hs => ?_⟩
          · rw [List.mem_cons] at hid ⊢
            tauto
          · rcases List.mem_cons.1 hs with rfl | hs
            · exact hfirst hm
            · exact hfresh other (List.mem_cons_of_mem _ hm) hs

theorem firstRepeated?_nil_eq_some {ids : List String} {id : String} :
    firstRepeated? [] ids = some id ↔ IsFirstRepeated ids id := by
  rw [firstRepeated?_eq_some]
  simp [IsFirstRepeated]

example : firstRepeated? [] ["water", "roads", "roads", "water"] = some "roads" := rfl

/-! ## Faults -/

theorem validate_of_unsupported {d : Document} (h : d.version ≠ supportedVersion) :
    d.validate = .error (.unsupportedVersion d.version) :=
  if_pos h

theorem validate_of_supported {d : Document} (h : d.version = supportedVersion) :
    d.validate = match firstRepeated? [] (d.layers.map Layer.id) with
      | some id => .error (.duplicateLayer id)
      | none => .ok d :=
  if_neg (not_not_intro h)

theorem validate_ne_malformed (d : Document) : d.validate ≠ .error .malformedDocument := by
  by_cases hv : d.version = supportedVersion
  · rw [validate_of_supported hv]
    cases firstRepeated? [] (d.layers.map Layer.id) <;> simp
  · rw [validate_of_unsupported hv]
    simp

theorem validate_eq_unsupported {d : Document} {version : UInt64} :
    d.validate = .error (.unsupportedVersion version) ↔
      d.version = version ∧ version ≠ supportedVersion := by
  by_cases hv : d.version = supportedVersion
  · rw [validate_of_supported hv]
    constructor
    · cases firstRepeated? [] (d.layers.map Layer.id) <;> simp
    · rintro ⟨rfl, hne⟩
      exact absurd hv hne
  · rw [validate_of_unsupported hv, Except.error.injEq, Fault.unsupportedVersion.injEq]
    constructor
    · rintro rfl
      exact ⟨rfl, hv⟩
    · exact And.left

theorem validate_eq_duplicate {d : Document} {id : String} :
    d.validate = .error (.duplicateLayer id) ↔
      d.version = supportedVersion ∧ IsFirstRepeated (d.layers.map Layer.id) id := by
  rw [← firstRepeated?_nil_eq_some]
  by_cases hv : d.version = supportedVersion
  · rw [validate_of_supported hv]
    cases firstRepeated? [] (d.layers.map Layer.id) <;> simp [hv]
  · rw [validate_of_unsupported hv]
    simp [hv]

theorem exists_validate {d : Document} : (∃ e, d.validate = .ok e) ↔
    d.version = supportedVersion ∧ (d.layers.map Layer.id).Nodup := by
  simp [validate_eq_ok]

theorem ofJson_of_shape {value : Json} {d : Document} (h : ofShape? value = some d) :
    ofJson value = d.validate := by
  rw [ofJson, h]

theorem ofJson_of_not_isShaped {value : Json} (h : ¬ IsShaped value) :
    ofJson value = .error .malformedDocument := by
  have hnone : ofShape? value = none :=
    Option.eq_none_iff_forall_ne_some.2 fun d hd => h (exists_ofShape?.1 ⟨d, hd⟩)
  rw [ofJson, hnone]

/-! ## Layers of a document that is read -/

/-- Each layer is found under its own id and under no other, and so is what it is compiled to. -/
structure FindsLayers (d : Document) : Prop where
  layer : ∀ id l, d.layer? id = some l ↔ l ∈ d.layers ∧ l.id = id
  compiled : ∀ choice s, CompiledStyle.compile choice d = .ok s →
    List.Forall₂ (fun l c => s.layer? l.id = some c ∧ c.Compiles (l.resolved d.layers)
      (LayerDefaults.ofKind? (l.resolved d.layers).kind)) d.layers s.layers
  compiledLayer : ∀ choice s, CompiledStyle.compile choice d = .ok s →
    ∀ id c, s.layer? id = some c ↔ c ∈ s.layers ∧ c.id = id

theorem findsLayers_of_nodup {d : Document} (h : (d.layers.map Layer.id).Nodup) :
    d.FindsLayers := by
  have hcompiled (choice : FaultChoice) (s : CompiledStyle)
      (hs : CompiledStyle.compile choice d = .ok s) (id : String) (c : CompiledLayer) : s.layer? id = some c ↔ c ∈ s.layers ∧ c.id = id := by
    refine Reading.find?_eq_some_of_nodup ?_
    rwa [CompiledLayer.map_id_of_compileAll (CompiledStyle.compile_eq_ok.1 hs).1,
      Resolution.map_id_ofLayers]
  refine ⟨fun _ _ => Reading.find?_eq_some_of_nodup h, fun choice s hs => ?_, hcompiled⟩
  have hall := CompiledLayer.compileAll_eq_ok.1 (CompiledStyle.compile_eq_ok.1 hs).1
  rw [Resolution.ofLayers, List.forall₂_map_left_iff] at hall
  refine Reading.forall₂_of_mem_right hall fun l c hc hcompiles => ⟨?_, hcompiles⟩
  have hid : c.id = l.id := by
    rw [hcompiles.id, Layer.id_of_resolves (Layer.resolves_resolved d.layers l)]
  exact (hcompiled choice s hs l.id c).2 ⟨hc, hid⟩

/-- A value is read as a document when it has the shape of one, is of version 8 and repeats no id.
Of any other the first fault is named, in this order. A document that is read has the layers of the
value, and each of them is found under its own id and under no other. -/
theorem ofJson_iff_shaped (value : Json) :
    (ofJson value = .error .malformedDocument ↔ ¬ IsShaped value) ∧
    (∀ version, ofJson value = .error (.unsupportedVersion version) ↔
      IsShaped value ∧ HasVersion value version ∧ version ≠ 8) ∧
    (∀ id, ofJson value = .error (.duplicateLayer id) ↔
      IsShaped value ∧ HasVersion value 8 ∧ IsFirstRepeated (layerIds value) id) ∧
    ((∃ d, ofJson value = .ok d) ↔
      IsShaped value ∧ HasVersion value 8 ∧ (layerIds value).Nodup) ∧
    ∀ d, ofJson value = .ok d → d.layers.map Layer.id = layerIds value ∧ d.FindsLayers := by
  have hlayers (d : Document) (hd : ofJson value = .ok d) :
      d.layers.map Layer.id = layerIds value ∧ d.FindsLayers :=
    ⟨(layerIds_eq (ofShape?_of_ofJson hd)).symm, findsLayers_of_nodup (nodup_of_ofJson hd)⟩
  by_cases hshape : IsShaped value
  · obtain ⟨d, hd⟩ := exists_ofShape?.2 hshape
    have hmalformed : ofJson value = .error .malformedDocument ↔ ¬ IsShaped value := by
      rw [ofJson_of_shape hd]
      exact iff_of_false d.validate_ne_malformed (not_not_intro hshape)
    refine ⟨hmalformed, fun version => ?_, fun id => ?_, ?_, hlayers⟩
    · rw [ofJson_of_shape hd, validate_eq_unsupported, hasVersion_iff hd]
      exact (and_iff_right hshape).symm
    · rw [ofJson_of_shape hd, validate_eq_duplicate, hasVersion_iff hd, layerIds_eq hd]
      exact (and_iff_right hshape).symm
    · rw [ofJson_of_shape hd, exists_validate, hasVersion_iff hd, layerIds_eq hd]
      exact (and_iff_right hshape).symm
  · have hmalformed := ofJson_of_not_isShaped hshape
    refine ⟨iff_of_true hmalformed hshape, fun version => ?_, fun id => ?_, ?_, hlayers⟩ <;>
      simp [hmalformed, hshape]

end Document

end StyledMap
