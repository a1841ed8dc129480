import StyledMap.Proofs.Json
import StyledMap.Proofs.RoundTrip

/-! # What reading and writing a document changes

A document that is read and written again is the value that it was read from, but for two things:
a `null` in place of an optional field is left out, and a zoom level is written as a double.

* `Json.kept` is what becomes of one member, and `Json.canonicalMembers` of an object.
* `canonical` on sources, layers and documents: the value with the two changes and no other.
* `Json.extend_eq_revised`: a record is written as what is kept of the members that it was read from
  when each of its fields is, whatever its other members are.
* `toJson_of_ofJson?` on sources and layers: each is written as the canonical form of what it was
  read from.
* `Document.canonical_of_ofJson`: what a document that is read from a value is written as, and that
  it is read back from that. The members of every object are in order, as they are in a value that
  is read from a text.
-/

set_option autoImplicit false

namespace StyledMap

namespace Json

/-- A number as the double nearest to it. -/
def asDouble : Json → Json
  | number n => double n.toFloat
  | v => v

/-- What is kept of a member: nothing of a `null` under an optional name, and otherwise its value
rewritten. -/
def kept (optional : List String) (rewrite : String → Json → Json) (key : String) (v : Json) :
    Option Json :=
  if key ∈ optional ∧ v.isNull then none else some (rewrite key v)

/-- An object with what is kept of its members. -/
def canonicalMembers (optional : List String) (rewrite : String → Json → Json) : Json → Json
  | object members => object (Table.revised (kept optional rewrite) members)
  | v => v

def mapItems (f : Json → Json) : Json → Json
  | array items => array (items.map f)
  | v => v

def mapMembers (f : Json → Json) : Json → Json
  | object members => object (Table.mapValues f members)
  | v => v

end Json

/-! ## Canonical values -/

namespace Source

def optionalNames : List String := ["url", "data"]

/-- A source without a `null` in place of an optional field. -/
def canonical : Json → Json :=
  Json.canonicalMembers optionalNames fun _ v => v

end Source

namespace Layer

def optionalNames : List String :=
  ["type", "ref", "source", "source-layer", "minzoom", "maxzoom", "filter", "layout", "paint"]

def zoomNames : List String := ["minzoom", "maxzoom"]

def rewrite (key : String) (v : Json) : Json :=
  if key ∈ zoomNames then v.asDouble else v

/-- A layer without a `null` in place of an optional field, and with its zoom levels as doubles. -/
def canonical : Json → Json :=
  Json.canonicalMembers optionalNames rewrite

end Layer

namespace Document

def optionalNames : List String := ["name", "sprite", "glyphs"]

def rewrite (key : String) (v : Json) : Json :=
  if key = "sources" then v.mapMembers Source.canonical
  else if key = "layers" then v.mapItems Layer.canonical
  else v

/-- A document without a `null` in place of an optional field, in itself, its sources and its
layers, and with the zoom levels of its layers as doubles. -/
def canonical : Json → Json :=
  Json.canonicalMembers optionalNames rewrite

end Document

/-! ## Members that are written as they were found -/

namespace Json

theorem asDouble_of_asFloat? {v : Json} {x : Float} (h : v.asFloat? = some x) :
    v.asDouble = double x := by
  cases v with
  | number n => exact congrArg double (Option.some.inj h)
  | _ => simp [asFloat?] at h

section

variable {β : Type} {read : Json → Option β} {members : Table Json} {key : String}
  {optional names : List String} {rewrite : String → Json → Json}

theorem kept_of_not_mem (h : key ∉ optional) (v : Json) :
    kept optional rewrite key v = some (rewrite key v) :=
  if_neg fun hn => h hn.1

theorem kept_of_ne_null {v : Json} (h : v ≠ .null) :
    kept optional rewrite key v = some (rewrite key v) := by
  refine if_neg fun hn => h ?_
  cases v with
  | null => rfl
  | _ => simp [isNull] at hn

theorem kept_required? {v : β} {w : Json} (h : required? read members key = some v)
    (hk : key ∉ optional)
    (hw : ∀ found, members.get? key = some found → read found = some v → rewrite key found = w) :
    (members.get? key).bind (kept optional rewrite key) = some w := by
  obtain ⟨found, hfound, hread⟩ := Option.bind_eq_some_iff.1 h
  rw [hfound, Option.bind_some, kept_of_not_mem hk, hw found hfound hread]

theorem kept_optional? (write : β → Json) {value : Option β}
    (h : optional? read members key = some value) (hk : key ∈ optional)
    (hw : ∀ found v, read found = some v → rewrite key found = write v) :
    (members.get? key).bind (kept optional rewrite key) = value.map write := by
  obtain ⟨rfl, habsent | hnull⟩ | ⟨v, found, rfl, hfound, hne, hread⟩ := optional?_cases h
  · rw [habsent]
    rfl
  · rw [hnull]
    exact if_pos ⟨hk, rfl⟩
  · rw [hfound, Option.bind_some, kept_of_ne_null hne, hw found v hread, Option.map_some]

section

variable (hr : ∀ v, rewrite key v = v)
include hr

theorem kept_required_string {v : String} (h : required? asString? members key = some v)
    (hk : key ∉ optional) :
    (members.get? key).bind (kept optional rewrite key) = some (string v) :=
  kept_required? h hk fun found _ hread => (hr found).trans (asString?_eq_some.1 hread)

theorem kept_optional_string {value : Option String}
    (h : optional? asString? members key = some value) (hk : key ∈ optional) :
    (members.get? key).bind (kept optional rewrite key) = value.map string :=
  kept_optional? string h hk fun found _ hread => (hr found).trans (asString?_eq_some.1 hread)

theorem kept_optional_object {value : Option (Table Json)}
    (h : optional? asMembers? members key = some value) (hk : key ∈ optional) :
    (members.get? key).bind (kept optional rewrite key) = value.map object :=
  kept_optional? object h hk fun found _ hread => (hr found).trans (asMembers?_eq_some.1 hread)

theorem kept_optional_value {value : Option Json}
    (h : optional? some members key = some value) (hk : key ∈ optional) :
    (members.get? key).bind (kept optional rewrite key) = value := by
  rw [← Option.map_id' (x := value)]
  exact kept_optional? (fun v => v) h hk fun found _ hread =>
    (hr found).trans (Option.some.inj hread)

end

/-- A record is written as what is kept of the members that it was read from, when each of its
fields is and when the other members are not changed. -/
theorem extend_eq_revised {extra : Table Json} {fields : List (String × Json)}
    (hs : members.IsSorted) (hextra : members.without names = extra)
    (hnames : ∀ entry ∈ fields, entry.1 ∈ names)
    (hfields : ∀ name ∈ names,
      (members.get? name).bind (kept optional rewrite name) = fields.reverse.lookup name)
    (hoptional : optional ⊆ names) (hrewrite : ∀ name ∉ names, ∀ v, rewrite name v = v) :
    extra.extend fields = members.revised (kept optional rewrite) := by
  subst hextra
  refine ((hs.without names).extend fields).eq_of_get? (hs.revised _) fun key => ?_
  rw [Table.get?_extend, Table.get?_without, hs.get?_revised]
  by_cases hkey : key ∈ names
  -- Under the name of a field only the fields count, and under any other name they do not.
  · rw [if_pos hkey, Option.or_none, ← hfields key hkey]
  · have hnone : fields.reverse.lookup key = none := by
      refine List.lookup_eq_none_iff.2 fun entry he => ?_
      have hmem := hnames entry (List.mem_reverse.1 he)
      exact bne_iff_ne.2 fun heq => hkey (heq ▸ hmem)
    have hkept : kept optional rewrite key = some := by
      funext v
      rw [kept_of_not_mem fun hm => hkey (hoptional hm), hrewrite key hkey]
    rw [if_neg hkey, hnone, Option.none_or, hkept, Option.bind_fun_some]

end

end Json

/-! ## Sources -/

namespace Source

theorem toJson_of_ofJson? {value : Json} {s : Source} (hv : value.isOrdered = true)
    (h : ofJson? value = some s) : s.toJson = canonical value := by
  obtain ⟨members, hobject, h⟩ := Option.bind_eq_some_iff.1 h
  obtain rfl := Json.asMembers?_eq_some.1 hobject
  obtain ⟨htype, hurl, hdata, hextra⟩ := ofMembers?_eq_some.1 h
  obtain ⟨hs, -⟩ := Json.isOrdered_object.1 hv
  obtain ⟨ltype, lurl, ldata⟩ := s.lookup_fields
  refine congrArg Json.object (Json.extend_eq_revised hs hextra s.name_mem_fieldNames ?_ (by decide)
    fun _ _ _ => rfl)
  simp only [fieldNames, List.forall_mem_cons, List.not_mem_nil, false_implies, implies_true,
    and_true, ltype, lurl, ldata]
  have hsame (v : Json) : v = v := rfl
  exact ⟨Json.kept_required_string hsame htype (by decide),
    Json.kept_optional_string hsame hurl (by decide),
    Json.kept_optional_value hsame hdata (by decide)⟩

end Source

/-! ## Layers -/

namespace Layer

theorem rewrite_eq_self {key : String} (h : key ∉ zoomNames) (v : Json) : rewrite key v = v :=
  if_neg h

theorem kept_zoom {members : Table Json} {key : String} {value : Option Float}
    (h : Json.optional? Json.asFloat? members key = some value) (hk : key ∈ zoomNames) :
    (members.get? key).bind (Json.kept optionalNames rewrite key) = value.map Json.double := by
  have hsub : zoomNames ⊆ optionalNames := by decide
  refine Json.kept_optional? Json.double h (hsub hk) fun found x hread => ?_
  rw [rewrite, if_pos hk, Json.asDouble_of_asFloat? hread]

/-- The name of a kind is the one that it was read from, also when there is no such kind. -/
theorem kept_kind {members : Table Json} {value : Option LayerKind}
    (h : Json.optional? readKind? members "type" = some value) :
    (members.get? "type").bind (Json.kept optionalNames rewrite "type") =
      value.map (.string ·.name) := by
  have hmem : "type" ∈ optionalNames := by decide
  refine Json.kept_optional? (.string ·.name) h hmem fun found kind hread => ?_
  obtain ⟨name, hname, rfl⟩ := Option.map_eq_some_iff.1 hread
  rw [LayerKind.name_ofName, rewrite_eq_self (by decide), Json.asString?_eq_some.1 hname]

theorem toJson_of_ofJson? {value : Json} {l : Layer} (hv : value.isOrdered = true)
    (h : ofJson? value = some l) : l.toJson = canonical value := by
  obtain ⟨members, hobject, h⟩ := Option.bind_eq_some_iff.1 h
  obtain rfl := Json.asMembers?_eq_some.1 hobject
  obtain ⟨hid, hkind, hreference, hsource, hsourceLayer, hminzoom, hmaxzoom, hfilter, hlayout,
    hpaint, hextra⟩ := ofMembers?_eq_some.1 h
  obtain ⟨hs, -⟩ := Json.isOrdered_object.1 hv
  obtain ⟨lid, lkind, lreference, lsource, lsourceLayer, lminzoom, lmaxzoom, lfilter, llayout,
    lpaint⟩ := l.lookup_fields
  have hsub : zoomNames ⊆ fieldNames := by decide
  refine congrArg Json.object (Json.extend_eq_revised hs hextra l.name_mem_fieldNames ?_ (by decide)
    fun _ hn => rewrite_eq_self fun hm => hn (hsub hm))
  simp only [fieldNames, List.forall_mem_cons, List.not_mem_nil, false_implies, implies_true,
    and_true, lid, lkind, lreference, lsource, lsourceLayer, lminzoom, lmaxzoom, lfilter, llayout,
    lpaint]
  have hsame {key : String} (hk : key ∉ zoomNames) := rewrite_eq_self hk
  exact ⟨Json.kept_required_string (hsame (by decide)) hid (by decide), kept_kind hkind,
    Json.kept_optional_string (hsame (by decide)) hreference (by decide),
    Json.kept_optional_string (hsame (by decide)) hsource (by decide),
    Json.kept_optional_string (hsame (by decide)) hsourceLayer (by decide),
    kept_zoom hminzoom (by decide), kept_zoom hmaxzoom (by decide),
    Json.kept_optional_value (hsame (by decide)) hfilter (by decide),
    Json.kept_optional_object (hsame (by decide)) hlayout (by decide),
    Json.kept_optional_object (hsame (by decide)) hpaint (by decide)⟩

end Layer

/-! ## Documents -/

namespace Document

theorem rewrite_eq_self {key : String} (hs : key ≠ "sources") (hl : key ≠ "layers") (v : Json) :
    rewrite key v = v := by
  rw [rewrite, if_neg hs, if_neg hl]

theorem kept_version {members : Table Json} {version : UInt64}
    (h : Json.required? readVersion? members "version" = some version) :
    (members.get? "version").bind (Json.kept optionalNames rewrite "version") =
      some (.number (.natural version)) := by
  refine Json.kept_required? h (by decide) fun found _ hread => ?_
  rw [rewrite_eq_self (by decide) (by decide)]
  unfold readVersion? at hread
  split at hread
  · rw [Option.some.inj hread]
  · simp at hread

theorem rewrite_sources {raw : Json} {sources : Table Source} (hv : raw.isOrdered = true)
    (h : readSources? raw = some sources) :
    rewrite "sources" raw = .object (sources.mapValues Source.toJson) := by
  obtain ⟨entries, hobject, h⟩ := Option.bind_eq_some_iff.1 h
  obtain rfl := Json.asMembers?_eq_some.1 hobject
  obtain ⟨-, hall⟩ := Json.isOrdered_object.1 hv
  refine congrArg Json.object (Reading.map_eq_map_of_forall₂ (Reading.mapM_eq_some.1 h) ?_)
  intro entry hmem _ hread
  obtain ⟨s, hs, hread⟩ := Option.bind_eq_some_iff.1 hread
  rw [← Option.some.inj hread, Source.toJson_of_ofJson? (hall entry hmem) hs]

theorem rewrite_layers {raw : Json} {layers : List Layer} (hv : raw.isOrdered = true)
    (h : readLayers? raw = some layers) :
    rewrite "layers" raw = .array (layers.map Layer.toJson) := by
  obtain ⟨items, harray, h⟩ := Option.bind_eq_some_iff.1 h
  obtain rfl := Json.asItems?_eq_some.1 harray
  have hall := Json.isOrdered_array.1 hv
  refine congrArg Json.array (Reading.map_eq_map_of_forall₂ (Reading.mapM_eq_some.1 h) ?_)
  exact fun item hmem _ hread => (Layer.toJson_of_ofJson? (hall item hmem) hread).symm

theorem toJson_of_ofShape? {value : Json} {d : Document} (hv : value.isOrdered = true)
    (h : ofShape? value = some d) : d.toJson = canonical value := by
  obtain ⟨members, hobject, hversion, hname, hsources, hlayers, hsprite, hglyphs, hextra⟩ :=
    ofShape?_eq_some.1 h
  obtain rfl := Json.asMembers?_eq_some.1 hobject
  obtain ⟨hs, hall⟩ := Json.isOrdered_object.1 hv
  obtain ⟨lversion, lname, lsources, llayers, lsprite, lglyphs⟩ := d.lookup_fields
  refine congrArg Json.object (Json.extend_eq_revised hs hextra d.name_mem_fieldNames ?_ (by decide)
    fun name hn => rewrite_eq_self (fun heq => hn (heq ▸ by decide)) fun heq =>
      hn (heq ▸ by decide))
  simp only [fieldNames, List.forall_mem_cons, List.not_mem_nil, false_implies, implies_true,
    and_true, lversion, lname, lsources, llayers, lsprite, lglyphs]
  have hsame {key : String} (hs : key ≠ "sources") (hl : key ≠ "layers") := rewrite_eq_self hs hl
  exact ⟨kept_version hversion,
    Json.kept_optional_string (hsame (by decide) (by decide)) hname (by decide),
    Json.kept_required? hsources (by decide) fun _ hfound =>
      rewrite_sources (hall _ (Table.mem_of_get? hfound)),
    Json.kept_required? hlayers (by decide) fun _ hfound =>
      rewrite_layers (hall _ (Table.mem_of_get? hfound)),
    Json.kept_optional_string (hsame (by decide) (by decide)) hsprite (by decide),
    Json.kept_optional_string (hsame (by decide) (by decide)) hglyphs (by decide)⟩

theorem toJson_of_ofText {text : String} {d : Document} (h : ofText text = .ok d) :
    ∃ value, Json.parse? text = some value ∧ d.toJson = canonical value := by
  obtain ⟨value, htext, hvalue⟩ := exists_value_of_ofText h
  exact ⟨value, htext, toJson_of_ofShape? (Json.isOrdered_of_parse? htext)
    (ofShape?_of_ofJson hvalue)⟩

/-- What a document that is read is written as, and that it is read back from that. -/
theorem canonical_of_ofJson {value : Json} {d : Document} (hv : value.isOrdered = true)
    (h : ofJson value = .ok d) : d.toJson = canonical value ∧ ofJson d.toJson = .ok d :=
  ⟨toJson_of_ofShape? hv (ofShape?_of_ofJson h),
    ofJson_toJson (wellFormed_of_ofJson h) (validate_of_ofJson h)⟩

/-! A style that has a `null` and a name of its own at each level, and a zoom level that is a whole
number. -/

def sketch : Json :=
  .object [("center", .null),
    ("layers", .array [
      .object [("filter", .null), ("id", .string "dome"), ("maxzoom", .null),
        ("minzoom", .number (.natural 5)), ("note", .null), ("type", .string "sky")],
      .object [("id", .string "base"), ("paint", .object [("sky-color", .null)])]]),
    ("name", .null),
    ("sources", .object [
      ("osm", .object [("data", .null), ("scheme", .null), ("type", .string "vector")])]),
    ("version", .number (.natural 8))]

def writtenSketch : Json :=
  .object [("center", .null),
    ("layers", .array [
      .object [("id", .string "dome"), ("minzoom", .double 5), ("note", .null),
        ("type", .string "sky")],
      .object [("id", .string "base"), ("paint", .object [("sky-color", .null)])]]),
    ("sources", .object [("osm", .object [("scheme", .null), ("type", .string "vector")])]),
    ("version", .number (.natural 8))]

theorem canonical_sketch : canonical sketch = writtenSketch := by
  rfl

theorem canonical_of_ofJson_sketch : sketch.isOrdered = true ∧
    ∃ d, ofJson sketch = .ok d ∧ d.toJson = writtenSketch ∧ ofJson writtenSketch = .ok d := by
  have hordered : sketch.isOrdered = true := by decide
  obtain ⟨d, hd⟩ : ∃ d, ofJson sketch = .ok d := ⟨_, rfl⟩
  obtain ⟨hwritten, hread⟩ := canonical_of_ofJson hordered hd
  rw [hwritten, canonical_sketch] at hread
  exact ⟨hordered, d, hd, hwritten.trans canonical_sketch, hread⟩

end Document

end StyledMap
