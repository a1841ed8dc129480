import StyledMap.Proofs.Document

/-! # Documents that are written and read again

A record is read into its fields and its other members, and written from them. What was read once
can be written and read again as often as one likes.

* `Json.required?_of_get?` and `Json.optional?_of_get?`: a field that is found as it was written is
  read as it was.
* `WellFormed` on sources, layers and documents: no field stands among the other members, and no
  value is one that would be read as another. All that is read is well-formed.
* `Source.ofJson?_toJson`, `Layer.ofJson?_toJson` and `Document.ofShape?_toJson`: what is
  well-formed is read back from what is written of it.
-/

set_option autoImplicit false

namespace StyledMap

/-! ## Fields -/

namespace Json

variable {β : Type} {read : Json → Option β} {members : Table Json} {key : String}

@[simp] theorem reverse_field (write : β → Json) (key : String) (value : Option β) :
    (field write key value).reverse = field write key value := by
  cases value with
  | none => rfl
  | some v => rfl

@[simp] theorem lookup_field (write : β → Json) (key : String) (value : Option β) (name : String) :
    (field write key value).lookup name = if name = key then value.map write else none := by
  cases value with
  | none => simp [field]
  | some v =>
    rw [field, List.lookup_cons]
    by_cases h : name = key
    · simp [h]
    · simp [h, beq_eq_false_iff_ne.2 h]

theorem forall_mem_field {P : String → Prop} (write : β → Json) (h : P key) (value : Option β) :
    ∀ entry ∈ field write key value, P entry.1 := by
  cases value with
  | none => simp [field]
  | some v => simpa [field] using h

theorem required?_of_get? (write : β → Json) {v : β} (h : members.get? key = some (write v))
    (hr : read (write v) = some v) : required? read members key = some v := by
  rw [required?, h]
  exact hr

theorem optional?_of_get? (write : β → Json) {value : Option β}
    (h : members.get? key = value.map write)
    (hr : ∀ v ∈ value, write v ≠ .null ∧ read (write v) = some v) :
    optional? read members key = some value := by
  unfold optional?
  rw [h]
  cases value with
  | none => rfl
  | some v =>
    obtain ⟨hnull, hread⟩ := hr v rfl
    rw [Option.map_some]
    split
    · next he => exact absurd he (by simp)
    · next he => exact absurd (Option.some.inj he) hnull
    · next he => rw [← Option.some.inj he, hread, Option.map_some]

section

variable {extra : Table Json} {fields : List (String × Json)}

theorem get?_extend_fields (h : key ∉ extra.keys) :
    (extra.extend fields).get? key = fields.reverse.lookup key := by
  rw [Table.get?_extend, Table.get?_eq_none_iff.2 h, Option.or_none]

theorem required?_extend_fields (write : β → Json) {v : β} (h : key ∉ extra.keys)
    (hl : fields.reverse.lookup key = some (write v)) (hr : read (write v) = some v) :
    required? read (extra.extend fields) key = some v :=
  required?_of_get? write ((get?_extend_fields h).trans hl) hr

theorem optional?_extend_fields (write : β → Json) {value : Option β} (h : key ∉ extra.keys)
    (hl : fields.reverse.lookup key = value.map write)
    (hr : ∀ v ∈ value, write v ≠ .null ∧ read (write v) = some v) :
    optional? read (extra.extend fields) key = some value :=
  optional?_of_get? write ((get?_extend_fields h).trans hl) hr

theorem optional?_extend_string {value : Option String} (h : key ∉ extra.keys)
    (hl : fields.reverse.lookup key = value.map string) :
    optional? asString? (extra.extend fields) key = some value :=
  optional?_extend_fields string h hl fun _ _ => ⟨by simp, rfl⟩

theorem optional?_extend_double {value : Option Float} (h : key ∉ extra.keys)
    (hl : fields.reverse.lookup key = value.map double) :
    optional? asFloat? (extra.extend fields) key = some value :=
  optional?_extend_fields double h hl fun _ _ => ⟨by simp [double], rfl⟩

theorem optional?_extend_object {value : Option (Table Json)} (h : key ∉ extra.keys)
    (hl : fields.reverse.lookup key = value.map object) :
    optional? asMembers? (extra.extend fields) key = some value :=
  optional?_extend_fields object h hl fun _ _ => ⟨by simp, rfl⟩

theorem optional?_extend_value {value : Option Json} (h : key ∉ extra.keys)
    (hl : fields.reverse.lookup key = value) (hn : value ≠ some .null) :
    optional? some (extra.extend fields) key = some value := by
  refine optional?_extend_fields (fun v => v) h ?_ fun v hv => ⟨fun hnull => hn ?_, rfl⟩
  · rw [hl, Option.map_id']
  · rw [← hnull]
    exact hv

end

/-- An optional field is absent or `null`, or it is there and is read. -/
theorem optional?_cases {value : Option β} (h : optional? read members key = some value) :
    (value = none ∧ (members.get? key = none ∨ members.get? key = some .null)) ∨
      ∃ v found, value = some v ∧ members.get? key = some found ∧ found ≠ .null ∧
        read found = some v := by
  unfold optional? at h
  split at h
  · next hg => exact .inl ⟨(Option.some.inj h).symm, .inl hg⟩
  · next hg => exact .inl ⟨(Option.some.inj h).symm, .inr hg⟩
  · next found hne hg =>
    obtain ⟨v, hv, rfl⟩ := Option.map_eq_some_iff.1 h
    exact .inr ⟨v, found, rfl, hg, hne, hv⟩

theorem ne_null_of_optional? {value : Option Json}
    (h : optional? some members key = some value) : value ≠ some .null := by
  obtain ⟨rfl, -⟩ | ⟨v, found, rfl, -, hne, hv⟩ := optional?_cases h
  · simp
  · rw [← Option.some.inj hv]
    simpa using hne

end Json

/-! ## Sources -/

namespace Source

structure WellFormed (s : Source) : Prop where
  data : s.data ≠ some .null
  extra : ∀ name ∈ fieldNames, name ∉ s.extra.keys

theorem wellFormed_of_ofMembers? {members : Table Json} {s : Source}
    (h : ofMembers? members = some s) : s.WellFormed := by
  obtain ⟨-, -, hdata, -⟩ := ofMembers?_eq_some.1 h
  exact ⟨Json.ne_null_of_optional? hdata, fun _ => not_mem_keys_extra h⟩

theorem wellFormed_of_ofJson? {value : Json} {s : Source} (h : ofJson? value = some s) :
    s.WellFormed := by
  obtain ⟨members, -, h⟩ := Option.bind_eq_some_iff.1 h
  exact wellFormed_of_ofMembers? h

theorem name_mem_fieldNames (s : Source) : ∀ entry ∈ s.fields, entry.1 ∈ fieldNames := by
  unfold fields
  simp only [List.forall_mem_append, List.forall_mem_singleton]
  exact ⟨⟨by decide, Json.forall_mem_field _ (by decide) _⟩, Json.forall_mem_field _ (by decide) _⟩

theorem without_members {s : Source} (h : s.WellFormed) :
    s.members.without fieldNames = s.extra := by
  rw [members, Table.without_extend s.name_mem_fieldNames, Table.without_eq_self h.extra]

/-- What is found under each field of a source that is written. -/
theorem lookup_fields (s : Source) :
    s.fields.reverse.lookup "type" = some (.string s.type) ∧
    s.fields.reverse.lookup "url" = s.url.map .string ∧
    s.fields.reverse.lookup "data" = s.data := by
  unfold fields
  refine ⟨?_, ?_, ?_⟩ <;> simp [List.lookup_append, List.lookup_cons]

theorem get?_members_type {s : Source} (h : "type" ∉ s.extra.keys) :
    s.members.get? "type" = some (.string s.type) := by
  rw [members, Json.get?_extend_fields h]
  exact s.lookup_fields.1

theorem get?_members_url {s : Source} (h : s.WellFormed) :
    s.members.get? "url" = s.url.map .string := by
  rw [members, Json.get?_extend_fields (h.extra _ (by decide))]
  exact s.lookup_fields.2.1

theorem get?_members_data {s : Source} (h : s.WellFormed) : s.members.get? "data" = s.data := by
  rw [members, Json.get?_extend_fields (h.extra _ (by decide))]
  exact s.lookup_fields.2.2

/-- A source is read back from what is written of it. -/
theorem ofJson?_toJson {s : Source} (h : s.WellFormed) : ofJson? s.toJson = some s := by
  obtain ⟨htype, hurl, hdata⟩ := s.lookup_fields
  exact ofMembers?_eq_some.2
    ⟨Json.required?_extend_fields .string (h.extra _ (by decide)) htype rfl,
      Json.optional?_extend_string (h.extra _ (by decide)) hurl,
      Json.optional?_extend_value (h.extra _ (by decide)) hdata h.data, without_members h⟩

end Source

/-! ## Layers -/

theorem LayerKind.name_ofName (name : String) : (ofName name).name = name := by
  unfold ofName
  split <;> rfl

namespace Layer

structure WellFormed (l : Layer) : Prop where
  kind : ∀ kind ∈ l.kind, LayerKind.ofName kind.name = kind
  filter : l.filter ≠ some .null
  extra : ∀ name ∈ fieldNames, name ∉ l.extra.keys

theorem ofName_name_of_optional? {members : Table Json} {key : String} {value : Option LayerKind}
    (h : Json.optional? readKind? members key = some value) :
    ∀ kind ∈ value, LayerKind.ofName kind.name = kind := by
  rintro kind rfl
  obtain ⟨hnone, -⟩ | ⟨v, found, hv, -, -, hread⟩ := Json.optional?_cases h
  · simp at hnone
  · obtain rfl := Option.some.inj hv
    obtain ⟨name, -, rfl⟩ := Option.map_eq_some_iff.1 hread
    rw [LayerKind.name_ofName]

theorem wellFormed_of_ofJson? {value : Json} {l : Layer} (h : ofJson? value = some l) :
    l.WellFormed := by
  obtain ⟨members, -, h⟩ := Option.bind_eq_some_iff.1 h
  obtain ⟨-, hkind, -, -, -, -, -, hfilter, -, -, hextra⟩ := ofMembers?_eq_some.1 h
  refine ⟨ofName_name_of_optional? hkind, Json.ne_null_of_optional? hfilter, fun name hn hk => ?_⟩
  rw [← hextra] at hk
  exact Table.mem_keys_without hk hn

theorem name_mem_fieldNames (l : Layer) : ∀ entry ∈ l.fields, entry.1 ∈ fieldNames := by
  unfold fields
  simp only [List.forall_mem_append, List.forall_mem_singleton, and_assoc]
  refine ⟨by decide, ?_, ?_, ?_, ?_, ?_, ?_, ?_, ?_, ?_⟩ <;>
    exact Json.forall_mem_field _ (by decide) _

/-- What is found under each field of a layer that is written. -/
theorem lookup_fields (l : Layer) :
    l.fields.reverse.lookup "id" = some (.string l.id) ∧
    l.fields.reverse.lookup "type" = l.kind.map (.string ·.name) ∧
    l.fields.reverse.lookup "ref" = l.reference.map .string ∧
    l.fields.reverse.lookup "source" = l.source.map .string ∧
    l.fields.reverse.lookup "source-layer" = l.sourceLayer.map .string ∧
    l.fields.reverse.lookup "minzoom" = l.minzoom.map Json.double ∧
    l.fields.reverse.lookup "maxzoom" = l.maxzoom.map Json.double ∧
    l.fields.reverse.lookup "filter" = l.filter ∧
    l.fields.reverse.lookup "layout" = l.layout.map .object ∧
    l.fields.reverse.lookup "paint" = l.paint.map .object := by
  unfold fields
  refine ⟨?_, ?_, ?_, ?_, ?_, ?_, ?_, ?_, ?_, ?_⟩ <;> simp [List.lookup_append, List.lookup_cons]

/-- A layer is read back from what is written of it. -/
theorem ofJson?_toJson {l : Layer} (h : l.WellFormed) : ofJson? l.toJson = some l := by
  obtain ⟨hid, hkind, hreference, hsource, hsourceLayer, hminzoom, hmaxzoom, hfilter, hlayout,
    hpaint⟩ := l.lookup_fields
  have hextra : (l.extra.extend l.fields).without fieldNames = l.extra := by
    rw [Table.without_extend l.name_mem_fieldNames, Table.without_eq_self h.extra]
  exact ofMembers?_eq_some.2
    ⟨Json.required?_extend_fields .string (h.extra _ (by decide)) hid rfl,
      Json.optional?_extend_fields (.string ·.name) (h.extra _ (by decide)) hkind
        fun k hk => ⟨by simp, congrArg some (h.kind k hk)⟩,
      Json.optional?_extend_string (h.extra _ (by decide)) hreference,
      Json.optional?_extend_string (h.extra _ (by decide)) hsource,
      Json.optional?_extend_string (h.extra _ (by decide)) hsourceLayer,
      Json.optional?_extend_double (h.extra _ (by decide)) hminzoom,
      Json.optional?_extend_double (h.extra _ (by decide)) hmaxzoom,
      Json.optional?_extend_value (h.extra _ (by decide)) hfilter h.filter,
      Json.optional?_extend_object (h.extra _ (by decide)) hlayout,
      Json.optional?_extend_object (h.extra _ (by decide)) hpaint, hextra⟩

end Layer

/-! ## Documents -/

namespace Document

structure WellFormed (d : Document) : Prop where
  sources : ∀ entry ∈ d.sources, entry.2.WellFormed
  layers : ∀ l ∈ d.layers, l.WellFormed
  extra : ∀ name ∈ fieldNames, name ∉ d.extra.keys

theorem wellFormed_of_ofJson {value : Json} {d : Document} (h : ofJson value = .ok d) :
    d.WellFormed := by
  obtain ⟨top, -, -, -, -, hlayers, -, -, hextra⟩ := ofShape?_eq_some.1 (ofShape?_of_ofJson h)
  refine ⟨?_, ?_, ?_⟩
  · obtain ⟨_, -, hs⟩ := sources_of_ofJson h
    exact Reading.forall_mem_of_forall₂ hs fun _ _ he => Source.wellFormed_of_ofJson? he.1
  · obtain ⟨raw, -, hlayers⟩ := Option.bind_eq_some_iff.1 hlayers
    obtain ⟨items, -, hlayers⟩ := Option.bind_eq_some_iff.1 hlayers
    exact Reading.forall_mem_of_forall₂ (Reading.mapM_eq_some.1 hlayers) fun _ _ =>
      Layer.wellFormed_of_ofJson?
  · rw [← hextra]
    exact fun name hn hk => Table.mem_keys_without hk hn

theorem name_mem_fieldNames (d : Document) : ∀ entry ∈ d.fields, entry.1 ∈ fieldNames := by
  unfold fields
  simp only [List.forall_mem_append, List.forall_mem_cons, List.not_mem_nil, false_implies,
    implies_true, and_true, and_assoc]
  exact ⟨by decide, Json.forall_mem_field _ (by decide) _, by decide, by decide,
    Json.forall_mem_field _ (by decide) _, Json.forall_mem_field _ (by decide) _⟩

theorem readSources?_mapValues {sources : Table Source}
    (h : ∀ entry ∈ sources, entry.2.WellFormed) :
    readSources? (.object (sources.mapValues Source.toJson)) = some sources := by
  refine Reading.mapM_eq_some.2 ?_
  induction sources with
  | nil => exact .nil
  | cons entry rest ih =>
    obtain ⟨hentry, hrest⟩ := List.forall_mem_cons.1 h
    refine .cons ?_ (ih hrest)
    rw [Source.ofJson?_toJson hentry]
    rfl

theorem readLayers?_map {layers : List Layer} (h : ∀ l ∈ layers, l.WellFormed) :
    readLayers? (.array (layers.map Layer.toJson)) = some layers := by
  refine Reading.mapM_eq_some.2 ?_
  induction layers with
  | nil => exact .nil
  | cons l rest ih =>
    obtain ⟨hl, hrest⟩ := List.forall_mem_cons.1 h
    exact .cons (Layer.ofJson?_toJson hl) (ih hrest)

/-- What is found under each field of a document that is written. -/
theorem lookup_fields (d : Document) :
    d.fields.reverse.lookup "version" = some (.number (.natural d.version)) ∧
    d.fields.reverse.lookup "name" = d.name.map .string ∧
    d.fields.reverse.lookup "sources" = some (.object (d.sources.mapValues Source.toJson)) ∧
    d.fields.reverse.lookup "layers" = some (.array (d.layers.map Layer.toJson)) ∧
    d.fields.reverse.lookup "sprite" = d.sprite.map .string ∧
    d.fields.reverse.lookup "glyphs" = d.glyphs.map .string := by
  unfold fields
  refine ⟨?_, ?_, ?_, ?_, ?_, ?_⟩ <;> simp [List.lookup_append, List.lookup_cons]

/-- A document is read back from what is written of it. -/
theorem ofShape?_toJson {d : Document} (h : d.WellFormed) : ofShape? d.toJson = some d := by
  obtain ⟨hversion, hname, hsources, hlayers, hsprite, hglyphs⟩ := d.lookup_fields
  have hextra : (d.extra.extend d.fields).without fieldNames = d.extra := by
    rw [Table.without_extend d.name_mem_fieldNames, Table.without_eq_self h.extra]
  exact ofShape?_eq_some.2
    ⟨_, rfl,
      Json.required?_extend_fields (.number <| .natural ·) (h.extra _ (by decide)) hversion rfl,
      Json.optional?_extend_string (h.extra _ (by decide)) hname,
      Json.required?_extend_fields (fun sources => .object (sources.mapValues Source.toJson))
        (h.extra _ (by decide)) hsources (readSources?_mapValues h.sources),
      Json.required?_extend_fields (fun layers => .array (layers.map Layer.toJson))
        (h.extra _ (by decide)) hlayers (readLayers?_map h.layers),
      Json.optional?_extend_string (h.extra _ (by decide)) hsprite,
      Json.optional?_extend_string (h.extra _ (by decide)) hglyphs, hextra⟩

theorem ofJson_toJson {d : Document} (h : d.WellFormed) (hv : d.validate = .ok d) :
    ofJson d.toJson = .ok d := by
  rw [ofJson, ofShape?_toJson h]
  exact hv

end Document

end StyledMap
