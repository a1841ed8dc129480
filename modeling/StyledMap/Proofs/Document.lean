import StyledMap.Document
import StyledMap.Proofs.Reading
import StyledMap.Proofs.Table

/-! # Documents that are read

* `Source.ofMembers?_eq_some`, `Layer.ofMembers?_eq_some` and `Document.ofShape?_eq_some`: a record
  is read when each of its fields is.
* `sources_of_ofJson`: the sources of a document are read from its member `sources`, one from each
  entry and under the same id.
* `Source.not_mem_keys_extra` and `Source.mem_fields`: a source keeps no field among its other
  members, and writes the fields that it has.
* `Document.validate_eq_ok`: a document is valid when it has the supported version and no two of its
  layers share an id.
-/

set_option autoImplicit false

namespace StyledMap

namespace Json

variable {v : Json}

theorem asString?_eq_some {s : String} : v.asString? = some s ↔ v = string s := by
  cases v <;> simp [asString?]

theorem asItems?_eq_some {items : List Json} : v.asItems? = some items ↔ v = array items := by
  cases v <;> simp [asItems?]

theorem asMembers?_eq_some {members : Table Json} :
    v.asMembers? = some members ↔ v = object members := by
  cases v <;> simp [asMembers?]

end Json

namespace Source

variable {members : Table Json} {s : Source}

theorem ofMembers?_eq_some : ofMembers? members = some s ↔
    Json.required? Json.asString? members "type" = some s.type ∧
    Json.optional? Json.asString? members "url" = some s.url ∧
    Json.optional? some members "data" = some s.data ∧
    members.without fieldNames = s.extra := by
  constructor
  · intro h
    obtain ⟨type, htype, h⟩ := Option.bind_eq_some_iff.1 h
    obtain ⟨url, hurl, h⟩ := Option.bind_eq_some_iff.1 h
    obtain ⟨data, hdata, h⟩ := Option.bind_eq_some_iff.1 h
    rw [← Option.some.inj h]
    exact ⟨htype, hurl, hdata, rfl⟩
  · rintro ⟨htype, hurl, hdata, hextra⟩
    rw [ofMembers?, htype, hurl, hdata, hextra]
    rfl

theorem mergedWith_eq_ok {info : Table Json} {merged : Source} :
    s.mergedWith info = .ok merged ↔ ofMembers? (info.extend s.members) = some merged := by
  unfold mergedWith
  split
  · next found h => rw [h, Except.ok.injEq, Option.some.injEq]
  · next h => simp [h]

/-- A source keeps no field among its other members. -/
theorem not_mem_keys_extra (h : ofMembers? members = some s) {name : String}
    (hn : name ∈ fieldNames) : name ∉ s.extra.keys := by
  obtain ⟨-, -, -, hextra⟩ := ofMembers?_eq_some.1 h
  rw [← hextra]
  exact fun hk => Table.mem_keys_without hk hn

/-- A source writes its type, and its link and its data when it has them. -/
theorem mem_fields {entry : String × Json} :
    entry ∈ s.fields ↔ entry = ("type", .string s.type) ∨
      (∃ url, s.url = some url ∧ entry = ("url", .string url)) ∨
      ∃ data, s.data = some data ∧ entry = ("data", data) := by
  unfold fields
  rw [List.mem_append, List.mem_append, List.mem_singleton, or_assoc]
  cases s.url <;> cases s.data <;> simp [Json.field]

end Source

/-- A layer is read when each of its fields is. -/
theorem Layer.ofMembers?_eq_some {members : Table Json} {l : Layer} :
    ofMembers? members = some l ↔
      Json.required? Json.asString? members "id" = some l.id ∧
      Json.optional? readKind? members "type" = some l.kind ∧
      Json.optional? Json.asString? members "ref" = some l.reference ∧
      Json.optional? Json.asString? members "source" = some l.source ∧
      Json.optional? Json.asString? members "source-layer" = some l.sourceLayer ∧
      Json.optional? Json.asFloat? members "minzoom" = some l.minzoom ∧
      Json.optional? Json.asFloat? members "maxzoom" = some l.maxzoom ∧
      Json.optional? some members "filter" = some l.filter ∧
      Json.optional? Json.asMembers? members "layout" = some l.layout ∧
      Json.optional? Json.asMembers? members "paint" = some l.paint ∧
      members.without fieldNames = l.extra := by
  constructor
  · intro h
    obtain ⟨id, hid, h⟩ := Option.bind_eq_some_iff.1 h
    obtain ⟨kind, hkind, h⟩ := Option.bind_eq_some_iff.1 h
    obtain ⟨reference, hreference, h⟩ := Option.bind_eq_some_iff.1 h
    obtain ⟨source, hsource, h⟩ := Option.bind_eq_some_iff.1 h
    obtain ⟨sourceLayer, hsourceLayer, h⟩ := Option.bind_eq_some_iff.1 h
    obtain ⟨minzoom, hminzoom, h⟩ := Option.bind_eq_some_iff.1 h
    obtain ⟨maxzoom, hmaxzoom, h⟩ := Option.bind_eq_some_iff.1 h
    obtain ⟨filter, hfilter, h⟩ := Option.bind_eq_some_iff.1 h
    obtain ⟨layout, hlayout, h⟩ := Option.bind_eq_some_iff.1 h
    obtain ⟨paint, hpaint, h⟩ := Option.bind_eq_some_iff.1 h
    rw [← Option.some.inj h]
    exact ⟨hid, hkind, hreference, hsource, hsourceLayer, hminzoom, hmaxzoom, hfilter, hlayout,
      hpaint, rfl⟩
  · rintro ⟨hid, hkind, hreference, hsource, hsourceLayer, hminzoom, hmaxzoom, hfilter, hlayout,
      hpaint, hextra⟩
    rw [ofMembers?, hid, hkind, hreference, hsource, hsourceLayer, hminzoom, hmaxzoom, hfilter,
      hlayout, hpaint, hextra]
    rfl

namespace Document

/-- A document is read when each of its fields is. -/
theorem ofShape?_eq_some {value : Json} {d : Document} : ofShape? value = some d ↔
    ∃ members, value.asMembers? = some members ∧
      Json.required? readVersion? members "version" = some d.version ∧
      Json.optional? Json.asString? members "name" = some d.name ∧
      Json.required? readSources? members "sources" = some d.sources ∧
      Json.required? readLayers? members "layers" = some d.layers ∧
      Json.optional? Json.asString? members "sprite" = some d.sprite ∧
      Json.optional? Json.asString? members "glyphs" = some d.glyphs ∧
      members.without fieldNames = d.extra := by
  rw [ofShape?, Option.bind_eq_some_iff]
  refine exists_congr fun members => and_congr_right fun _ => ⟨fun h => ?_, ?_⟩
  · obtain ⟨version, hversion, h⟩ := Option.bind_eq_some_iff.1 h
    obtain ⟨name, hname, h⟩ := Option.bind_eq_some_iff.1 h
    obtain ⟨sources, hsources, h⟩ := Option.bind_eq_some_iff.1 h
    obtain ⟨layers, hlayers, h⟩ := Option.bind_eq_some_iff.1 h
    obtain ⟨sprite, hsprite, h⟩ := Option.bind_eq_some_iff.1 h
    obtain ⟨glyphs, hglyphs, h⟩ := Option.bind_eq_some_iff.1 h
    rw [← Option.some.inj h]
    exact ⟨hversion, hname, hsources, hlayers, hsprite, hglyphs, rfl⟩
  · rintro ⟨hversion, hname, hsources, hlayers, hsprite, hglyphs, hextra⟩
    rw [ofMembers?, hversion, hname, hsources, hlayers, hsprite, hglyphs, hextra]
    rfl

theorem ofShape?_of_ofJson {value : Json} {d : Document} (h : ofJson value = .ok d) :
    ofShape? value = some d := by
  unfold ofJson at h
  split at h
  · next e he =>
    unfold validate at h
    split at h
    · simp at h
    · split at h
      · simp at h
      · rw [he, Except.ok.inj h]
  · simp at h

/-- A document that is read from a text is read from the value of the text. -/
theorem exists_value_of_ofText {text : String} {d : Document} (h : ofText text = .ok d) :
    ∃ value, Json.parse? text = some value ∧ ofJson value = .ok d := by
  unfold ofText at h
  split at h
  · next written hwritten =>
    split at h
    · split at h
      · next value hvalue =>
        refine ⟨value, ?_, h⟩
        rw [Json.parse?, hwritten]
        exact hvalue
      · simp at h
    · simp at h
  · simp at h

theorem sources_of_ofJson {value : Json} {d : Document} (h : ofJson value = .ok d) :
    ∃ members, value.member? "sources" = some (.object members) ∧
      List.Forall₂ (fun member entry => Source.ofJson? member.2 = some entry.2 ∧
        entry.1 = member.1) members d.sources := by
  obtain ⟨top, htop, -, -, hs, -⟩ := ofShape?_eq_some.1 (ofShape?_of_ofJson h)
  obtain ⟨raw, hraw, hs⟩ := Option.bind_eq_some_iff.1 hs
  obtain ⟨members, hm, hs⟩ := Option.bind_eq_some_iff.1 hs
  refine ⟨members, ?_, ?_⟩
  · rw [Json.member?, htop, ← Json.asMembers?_eq_some.1 hm]
    exact hraw
  · refine (Reading.mapM_eq_some.1 hs).imp fun member entry he => ?_
    obtain ⟨s, hs, he⟩ := Option.bind_eq_some_iff.1 he
    rw [← Option.some.inj he]
    exact ⟨hs, rfl⟩

theorem keys_of_forall₂ {members : Table Json} {sources : Table Source}
    (h : List.Forall₂ (fun member entry => Source.ofJson? member.2 = some entry.2 ∧
      entry.1 = member.1) members sources) : sources.keys = members.keys :=
  (Reading.map_eq_map_of_forall₂ h fun _ _ _ he => he.2.symm).symm

theorem isSorted_sources {value : Json} {d : Document} (hd : ofJson value = .ok d)
    (h : ∀ members, value.member? "sources" = some (.object members) → Table.IsSorted members) :
    d.sources.IsSorted := by
  obtain ⟨members, hmembers, hall⟩ := sources_of_ofJson hd
  rw [Table.IsSorted, keys_of_forall₂ hall]
  exact h members hmembers

theorem type_not_mem_extra {value : Json} {d : Document} (h : ofJson value = .ok d) :
    ∀ entry ∈ d.sources, "type" ∉ entry.2.extra.keys := by
  obtain ⟨members, -, hs⟩ := sources_of_ofJson h
  refine Reading.forall_mem_of_forall₂ hs fun _ _ hm => ?_
  obtain ⟨_, -, h⟩ := Option.bind_eq_some_iff.1 hm.1
  exact Source.not_mem_keys_extra h (by decide)

/-! ## Validation -/

theorem firstRepeated?_eq_none {seen ids : List String} :
    firstRepeated? seen ids = none ↔ ids.Nodup ∧ ∀ id ∈ ids, id ∉ seen := by
  induction ids generalizing seen with
  | nil => simp [firstRepeated?]
  | cons id ids ih =>
    unfold firstRepeated?
    rw [List.nodup_cons, List.forall_mem_cons]
    by_cases h : id ∈ seen
    · simp [h]
    · rw [if_neg (by simpa using h), ih]
      -- The id is now among those that came before, so no later one is equal to it.
      constructor
      · rintro ⟨hnodup, hseen⟩
        exact ⟨⟨fun hm => hseen id hm List.mem_cons_self, hnodup⟩, h,
          fun other hm hs => hseen other hm (List.mem_cons_of_mem _ hs)⟩
      · rintro ⟨⟨hid, hnodup⟩, -, hseen⟩
        refine ⟨hnodup, fun other hm hs => ?_⟩
        rcases List.mem_cons.1 hs with rfl | hs
        · exact hid hm
        · exact hseen other hm hs

theorem validate_eq_ok {d e : Document} : d.validate = .ok e ↔
    d = e ∧ d.version = supportedVersion ∧ (d.layers.map Layer.id).Nodup := by
  have hids : firstRepeated? [] (d.layers.map Layer.id) = none ↔
      (d.layers.map Layer.id).Nodup := by simp [firstRepeated?_eq_none]
  unfold validate
  rw [← hids]
  by_cases hversion : d.version = supportedVersion
  · rw [if_neg (not_not_intro hversion)]
    cases firstRepeated? [] (d.layers.map Layer.id) <;> simp [hversion]
  · simp [hversion]

theorem validate_of_ofJson {value : Json} {d : Document} (h : ofJson value = .ok d) :
    d.validate = .ok d := by
  have hs := ofShape?_of_ofJson h
  rw [ofJson, hs] at h
  exact h

/-- No two layers of a document that is read share an id. -/
theorem nodup_of_ofJson {value : Json} {d : Document} (h : ofJson value = .ok d) :
    (d.layers.map Layer.id).Nodup :=
  (validate_eq_ok.1 (validate_of_ofJson h)).2.2

/-- Where no two layers share an id, a layer is found under its own. -/
theorem layer?_of_mem {d : Document} {l : Layer} (hn : (d.layers.map Layer.id).Nodup)
    (hl : l ∈ d.layers) : d.layer? l.id = some l :=
  (Reading.find?_eq_some_of_nodup hn).2 ⟨hl, rfl⟩

/-- Validation looks at the version and at the ids of the layers only. -/
theorem validate_congr {d e : Document} (h : d.validate = .ok d) (hv : e.version = d.version)
    (hl : e.layers.map Layer.id = d.layers.map Layer.id) : e.validate = .ok e := by
  obtain ⟨-, hversion, hnodup⟩ := validate_eq_ok.1 h
  exact validate_eq_ok.2 ⟨rfl, hv.trans hversion, by rwa [hl]⟩

end Document

end StyledMap
