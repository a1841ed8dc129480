import StyledMap.Proofs.Document
import StyledMap.Proofs.Layer.Inheritance
import StyledMap.Proofs.Link.Flight
import StyledMap.Proofs.Link.Inputs

/-! # What loading accounts for

* `Refused`: the reasons for which a style is not loaded.
* `Accounts`: every source and the sprite of a document are in the loaded style or reported by it,
  each by the answers of its own links.
* `load_refused_or_accounts`: a style is refused for one of the reasons, or it is loaded, accounts
  for everything, and is the same in whatever order answers come.
-/

set_option autoImplicit false

namespace StyledMap

namespace Loader

open Layer Session

/-- Why a style is not loaded. -/
inductive Refused (loader : Loader) (r : Resources) (input : Input) : LinkFault → Prop
  /-- Its document cannot be had. -/
  | unread {fault : LinkFault} :
    input.Fails loader.provider r fault → Refused loader r input fault
  /-- Its document is refused. -/
  | rejected {value : Json} {fault : Fault} :
    input.Gives loader.provider r value → Document.ofJson value = .error fault →
    Refused loader r input (.style fault)
  /-- A reference dangles, and the loader is strict. -/
  | dangling {value : Json} {document : Document} {l : Layer} {missing : String} :
    input.Gives loader.provider r value → Document.ofJson value = .ok document →
    loader.strict = true → document.layers.find? (dangles document.layers) = some l →
    l.reference = some missing →
    Refused loader r input (.style (.danglingReference l.id missing))

def resolved (document : Document) : Document :=
  { document with layers := (Resolution.ofLayers document.layers).layers }

def danglingReports (document : Document) : List Diagnostic :=
  (Resolution.ofLayers document.layers).diagnostics

/-! ## Preparing -/

theorem prepare_of_rejected {strict : Bool} {value : Json} {fault : Fault}
    (h : Document.ofJson value = .error fault) : prepare strict value = .error fault := by
  rw [prepare, h]
  rfl

theorem prepare_eq_ok {strict : Bool} {value : Json} {document : Document}
    (h : Document.ofJson value = .ok document)
    (hd : strict = true → ∀ l ∈ document.layers, dangles document.layers l = false) :
    prepare strict value = .ok (resolved document, danglingReports document) := by
  unfold prepare
  rw [h]
  cases strict with
  | false => rfl
  | true =>
    have hnil := Resolution.dangling_ofLayers_eq_nil_iff.2 (hd rfl)
    have hr : danglingReports document = [] := Resolution.diagnostics_eq_nil hnil
    rw [hr]
    exact Reading.bind_eq_ok.2
      ⟨_, rfl, Reading.bind_eq_ok.2 ⟨_, Resolution.strict_eq_ok hnil, rfl⟩⟩

theorem prepare_eq_error {value : Json} {document : Document} {l : Layer} {missing : String}
    (h : Document.ofJson value = .ok document)
    (hfirst : document.layers.find? (dangles document.layers) = some l)
    (href : l.reference = some missing) :
    prepare true value = .error (.danglingReference l.id missing) := by
  obtain ⟨named, rest, hnamed, hcons⟩ := Resolution.exists_dangling_ofLayers_of_find? hfirst
  obtain rfl := Option.some.inj (href.symm.trans hnamed)
  unfold prepare
  rw [h]
  change ((Resolution.ofLayers document.layers).strict >>= _) = _
  rw [Resolution.strict_eq_error hcons]
  rfl

/-- What is prepared is a document whose references are resolved. -/
theorem exists_of_prepare {strict : Bool} {value : Json} {prepared : Document}
    {dangling : List Diagnostic} (h : prepare strict value = .ok (prepared, dangling)) :
    ∃ document, Document.ofJson value = .ok document ∧
      (strict = true → ∀ l ∈ document.layers, dangles document.layers l = false) ∧
      prepared = resolved document ∧ dangling = danglingReports document := by
  cases hdoc : Document.ofJson value with
  | error fault =>
    rw [prepare_of_rejected hdoc] at h
    cases h
  | ok document =>
    by_cases hd : strict = true → ∀ l ∈ document.layers, dangles document.layers l = false
    · rw [prepare_eq_ok hdoc hd] at h
      obtain ⟨hprepared, hdangling⟩ := Prod.mk.inj (Except.ok.inj h)
      exact ⟨document, rfl, hd, hprepared.symm, hdangling.symm⟩
    · obtain ⟨rfl, hsome⟩ := Classical.not_imp.1 hd
      obtain ⟨l, missing, hfirst, href⟩ := Resolution.exists_find?_dangles hsome
      rw [prepare_eq_error hdoc hfirst href] at h
      cases h

/-! ## Loading -/

section

variable {loader : Loader} {input : Input} {r : Resources}

theorem load_yields_of_unread {fault : LinkFault} (h : input.Fails loader.provider r fault) :
    (load loader input).Yields r (.error fault) (input.asked loader.provider ++ []) :=
  yields_bind (readDocument_yields_of_fails h) (yields_pure _)

theorem load_yields_of_rejected {value : Json} {fault : Fault}
    (h : input.Gives loader.provider r value) (hp : prepare loader.strict value = .error fault) :
    (load loader input).Yields r (.error (.style fault))
      (input.asked loader.provider ++ []) := by
  refine yields_bind (readDocument_yields_of_gives h) ?_
  simp only [hp]
  exact yields_pure _

theorem load_yields_of_prepared {value : Json} {document : Document} {dangling : List Diagnostic}
    (h : input.Gives loader.provider r value)
    (hp : prepare loader.strict value = .ok (document, dangling)) :
    (load loader input).Yields r
      (.ok (assemble loader.provider document dangling
        ((Flight.launch loader.provider document).outcome r)))
      (input.asked loader.provider ++
        ((Flight.launch loader.provider document).requests r ++ [])) := by
  refine yields_bind (readDocument_yields_of_gives h) ?_
  simp only [hp]
  exact yields_bind (resolveLinks_yields _ r document dangling) (yields_pure _)

end

/-! ## Accounts -/

/-- How often a style reports its sprite. -/
def spriteReports (diagnostics : List Diagnostic) : Nat :=
  diagnostics.countP fun d => d.kind = .spriteUnavailable

/-- The report of a layer whose reference dangles. -/
def IsDanglingReport (l : Layer) (d : Diagnostic) : Prop :=
  ∃ missing, l.reference = some missing ∧
    d = ⟨.danglingReference, l.id, "references missing layer '" ++ missing ++ "'"⟩

/-- A loaded style accounts for the sources and the sprite of a document. -/
structure Accounts (p : Provider) (r : Resources) (document : Document) (loaded : LoadedStyle) :
    Prop where
  /-- The style has a source as it was expanded, under its id. -/
  had : ∀ id s', (id, s') ∈ loaded.document.sources ↔
    ∃ s, (id, s) ∈ document.sources ∧ ((expandSource p s).runWith r).1 = .ok s'
  /-- It reports a source that could not be expanded. -/
  missed : ∀ d, d ∈ loaded.diagnostics ∧ d.kind = .sourceUnavailable ↔
    ∃ id s fault, (id, s) ∈ document.sources ∧ ((expandSource p s).runWith r).1 = .error fault ∧
      d = ⟨.sourceUnavailable, id, fault.message⟩
  /-- No answer but that of its own link changes what a source is expanded to. -/
  ownLink : ∀ entry ∈ document.sources, ∀ r' : Resources,
    (∀ link ∈ entry.2.link?, r'.json (link.address p) = r.json (link.address p)) →
    ((expandSource p entry.2).runWith r').1 = ((expandSource p entry.2).runWith r).1
  /-- An id is had or reported as often as it is declared. -/
  count : ∀ id, loaded.document.sources.keys.count id + reports loaded.diagnostics id =
    document.sources.keys.count id
  /-- A declared id is had or reported once, and no other id is either. -/
  either : document.sources.IsSorted → ∀ id,
    (id ∈ document.sources.keys →
      (id ∈ loaded.document.sources.keys ∧ reports loaded.diagnostics id = 0) ∨
      (id ∉ loaded.document.sources.keys ∧ reports loaded.diagnostics id = 1)) ∧
    (id ∉ document.sources.keys →
      id ∉ loaded.document.sources.keys ∧ reports loaded.diagnostics id = 0)
  /-- The sprite is had when it is declared and both of its parts are. -/
  sprite : ∀ image metadata, loaded.sprite = some ⟨image, metadata⟩ ↔
    ∃ url, document.sprite = some url ∧
      r.image ((Link.spriteImage url).address p) = .ok image ∧
      r.json ((Link.spriteMetadata url).address p) = .ok metadata
  /-- It is reported once when it is declared and a part is missing, and else not. -/
  spriteReported : spriteReports loaded.diagnostics ≤ 1 ∧
    (spriteReports loaded.diagnostics = 1 ↔ ∃ url, document.sprite = some url ∧
      ((∃ fault, r.image ((Link.spriteImage url).address p) = .error fault) ∨
        ∃ fault, r.json ((Link.spriteMetadata url).address p) = .error fault))
  /-- Each layer whose reference dangles is reported first, in the order of layers, then sources in
  the order of their ids, then the sprite. -/
  order : ∃ dangling sources sprite,
    loaded.diagnostics = dangling ++ sources ++ sprite ∧
    List.Forall₂ IsDanglingReport (document.layers.filter (dangles document.layers)) dangling ∧
    (∀ d ∈ sources, d.kind = .sourceUnavailable) ∧
    (∀ d ∈ sprite, d.kind = .spriteUnavailable ∧ document.sprite = some d.subject) ∧
    (sources.map Diagnostic.subject).Sublist document.sources.keys ∧
    (document.sources.IsSorted → (sources.map Diagnostic.subject).Pairwise (· < ·))
  /-- GeoJSON that is had holds its own data or the answer of its link, an object with a type. -/
  geoJson : ∀ id s', (id, s') ∈ loaded.document.sources → s'.isGeoJson = true →
    ∃ s data, (id, s) ∈ document.sources ∧ s'.data = some data ∧ isGeoJsonData data ∧
      (s.data = some data ∨ ∃ url, s.data = some (.string url) ∧ r.json url = .ok data)

section

variable {p : Provider} {r : Resources} {document : Document}

theorem mem_outcome_launch {id : String} {result : Except LinkFault Source} :
    (id, result) ∈ ((Flight.launch p document).outcome r).sources ↔
      ∃ s, (id, s) ∈ document.sources ∧ ((expandSource p s).runWith r).1 = result := by
  rw [sources_outcome_launch, List.mem_map]
  constructor
  · rintro ⟨⟨key, s⟩, he, h⟩
    obtain ⟨rfl, rfl⟩ := Prod.mk.inj h
    exact ⟨s, he, expandSource_result p r s⟩
  · rintro ⟨s, he, rfl⟩
    exact ⟨(id, s), he, by rw [expandSource_result]⟩

theorem keys_outcome_launch :
    ((Flight.launch p document).outcome r).sources.keys = document.sources.keys := by
  rw [sources_outcome_launch, Table.keys, List.map_map]
  rfl

theorem kind_of_mem_danglingReports {d : Diagnostic} (h : d ∈ danglingReports document) :
    d.kind = .danglingReference := by
  obtain ⟨_, -, rfl⟩ := List.mem_map.1 h
  rfl

def arrived (p : Provider) (r : Resources) (document : Document) : LoadedStyle :=
  assemble p (resolved document) (danglingReports document)
    ((Flight.launch p document).outcome r)

theorem diagnostics_arrived : (arrived p r document).diagnostics = danglingReports document ++
    unavailable ((Flight.launch p document).outcome r).sources ++
    spriteReport document.sprite ((Flight.launch p document).outcome r).sprite := rfl

theorem sources_arrived : (arrived p r document).document.sources =
    available ((Flight.launch p document).outcome r).sources := rfl

theorem mem_diagnostics_arrived {d : Diagnostic} :
    d ∈ (arrived p r document).diagnostics ∧ d.kind = .sourceUnavailable ↔
      d ∈ unavailable ((Flight.launch p document).outcome r).sources := by
  rw [diagnostics_arrived, List.mem_append, List.mem_append]
  constructor
  · rintro ⟨(h | h) | h, hk⟩
    · rw [kind_of_mem_danglingReports h] at hk
      cases hk
    · exact h
    · rw [kind_of_mem_spriteReport h] at hk
      cases hk
  · intro h
    exact ⟨.inl (.inr h), kind_of_mem_unavailable h⟩

theorem reports_arrived (id : String) : reports (arrived p r document).diagnostics id =
    reports (unavailable ((Flight.launch p document).outcome r).sources) id := by
  have hd : reports (danglingReports document) id = 0 :=
    reports_eq_zero (fun d h => by rw [kind_of_mem_danglingReports h]; decide) id
  have hs : reports (spriteReport document.sprite
      ((Flight.launch p document).outcome r).sprite) id = 0 :=
    reports_eq_zero (fun d h => by rw [kind_of_mem_spriteReport h]; decide) id
  rw [diagnostics_arrived, reports_append, reports_append, hd, hs]
  omega

theorem spriteReports_arrived : spriteReports (arrived p r document).diagnostics =
    (spriteReport document.sprite ((Flight.launch p document).outcome r).sprite).length := by
  rw [diagnostics_arrived, spriteReports, List.countP_append, List.countP_append]
  have hd : (danglingReports document).countP (fun d => d.kind = .spriteUnavailable) = 0 :=
    List.countP_eq_zero.2 fun d h => by rw [kind_of_mem_danglingReports h]; decide
  have hu : (unavailable ((Flight.launch p document).outcome r).sources).countP
      (fun d => d.kind = .spriteUnavailable) = 0 :=
    List.countP_eq_zero.2 fun d h => by rw [kind_of_mem_unavailable h]; decide
  simp only [hd, hu, Nat.zero_add]
  refine List.countP_eq_length.2 fun d h => ?_
  rw [kind_of_mem_spriteReport h]
  decide

theorem count_arrived (id : String) :
    (arrived p r document).document.sources.keys.count id +
      reports (arrived p r document).diagnostics id = document.sources.keys.count id := by
  rw [reports_arrived, sources_arrived, count_available_add_reports, keys_outcome_launch]

theorem either_arrived (hs : document.sources.IsSorted) (id : String) :
    (id ∈ document.sources.keys →
      (id ∈ (arrived p r document).document.sources.keys ∧
        reports (arrived p r document).diagnostics id = 0) ∨
      (id ∉ (arrived p r document).document.sources.keys ∧
        reports (arrived p r document).diagnostics id = 1)) ∧
    (id ∉ document.sources.keys →
      id ∉ (arrived p r document).document.sources.keys ∧
        reports (arrived p r document).diagnostics id = 0) := by
  have hcount : (arrived p r document).document.sources.keys.count id +
      reports (arrived p r document).diagnostics id = document.sources.keys.count id :=
    count_arrived id
  constructor
  · intro hid
    have hnodup : document.sources.keys.Nodup := hs.imp String.ne_of_lt
    have hone : document.sources.keys.count id = 1 := by rw [hnodup.count, if_pos hid]
    by_cases hl : id ∈ (arrived p r document).document.sources.keys
    · have hpos := List.count_pos_iff.2 hl
      exact .inl ⟨hl, by omega⟩
    · have hzero := List.count_eq_zero.2 hl
      exact .inr ⟨hl, by omega⟩
  · intro hid
    have hzero := List.count_eq_zero.2 hid
    exact ⟨List.count_eq_zero.1 (by omega), by omega⟩

theorem spriteReported_arrived : spriteReports (arrived p r document).diagnostics ≤ 1 ∧
    (spriteReports (arrived p r document).diagnostics = 1 ↔ ∃ url, document.sprite = some url ∧
      ((∃ fault, r.image ((Link.spriteImage url).address p) = .error fault) ∨
        ∃ fault, r.json ((Link.spriteMetadata url).address p) = .error fault)) := by
  simp only [Link.address_spriteImage, Link.address_spriteMetadata]
  rw [spriteReports_arrived, sprite_outcome_launch]
  cases document.sprite with
  | none => simp [spriteReport]
  | some url =>
    obtain ⟨hle, hone⟩ := length_spriteReport url (r.image (p.spriteAddress url).image)
      (r.json (p.spriteAddress url).metadata)
    refine ⟨hle, hone.trans ?_⟩
    simp

/-- Every layer whose reference dangles is reported, and no other. -/
theorem forall₂_danglingReports (document : Document) :
    List.Forall₂ IsDanglingReport (document.layers.filter (dangles document.layers))
      (danglingReports document) := by
  have hpairs : List.Forall₂ (· = ·)
      ((document.layers.filter (dangles document.layers)).map fun l => (l.id, l.reference))
      ((Resolution.ofLayers document.layers).dangling.map fun d => (d.layer, some d.missing)) := by
    rw [List.forall₂_eq_eq_eq]
    exact (Resolution.dangling_ofLayers document.layers).symm
  rw [List.forall₂_map_left_iff, List.forall₂_map_right_iff] at hpairs
  rw [danglingReports, Resolution.diagnostics, List.forall₂_map_right_iff]
  refine hpairs.imp fun l d h => ?_
  obtain ⟨hid, href⟩ := Prod.mk.inj h
  exact ⟨d.missing, href, by rw [hid]; rfl⟩

theorem order_arrived : ∃ dangling sources sprite,
    (arrived p r document).diagnostics = dangling ++ sources ++ sprite ∧
    List.Forall₂ IsDanglingReport (document.layers.filter (dangles document.layers)) dangling ∧
    (∀ d ∈ sources, d.kind = .sourceUnavailable) ∧
    (∀ d ∈ sprite, d.kind = .spriteUnavailable ∧ document.sprite = some d.subject) ∧
    (sources.map Diagnostic.subject).Sublist document.sources.keys ∧
    (document.sources.IsSorted → (sources.map Diagnostic.subject).Pairwise (· < ·)) := by
  have hsub : ((unavailable ((Flight.launch p document).outcome r).sources).map
      Diagnostic.subject).Sublist document.sources.keys := by
    rw [← keys_outcome_launch (p := p) (r := r)]
    exact subjects_unavailable_sublist _
  exact ⟨_, _, _, diagnostics_arrived, forall₂_danglingReports document,
    fun _ => kind_of_mem_unavailable,
    fun _ h => ⟨kind_of_mem_spriteReport h, sprite_of_mem_spriteReport h⟩, hsub,
    fun hs => hs.sublist hsub⟩

/-- What has arrived for a document that was read accounts for it. -/
theorem accounts_arrived (hx : ∀ entry ∈ document.sources, "type" ∉ entry.2.extra.keys) :
    Accounts p r document (arrived p r document) where
  had id s' := by
    rw [sources_arrived, mem_available_iff, mem_outcome_launch]
  missed d := by
    rw [mem_diagnostics_arrived, mem_unavailable_iff]
    constructor
    · rintro ⟨id, fault, he, rfl⟩
      obtain ⟨s, hs, hr⟩ := mem_outcome_launch.1 he
      exact ⟨id, s, fault, hs, hr, rfl⟩
    · rintro ⟨id, s, fault, hs, hr, rfl⟩
      exact ⟨id, fault, mem_outcome_launch.2 ⟨s, hs, hr⟩, rfl⟩
  ownLink entry _ r' h := by
    rw [expandSource_result, expandSource_result, result_sourceTask_congr h]
  count := count_arrived
  either := either_arrived
  sprite image metadata := by
    change spriteOf ((Flight.launch p document).outcome r).sprite = some ⟨image, metadata⟩ ↔ _
    rw [spriteOf_eq_some, sprite_outcome_launch, Option.map_eq_some_iff]
    simp only [Prod.mk.injEq, Link.address_spriteImage, Link.address_spriteMetadata]
  spriteReported := spriteReported_arrived
  order := order_arrived
  geoJson id s' he hg := by
    rw [sources_arrived, mem_available_iff, mem_outcome_launch] at he
    obtain ⟨s, hs, hr⟩ := he
    rw [expandSource_result] at hr
    have htype : s'.type = s.type := type_of_result (hx _ hs) hr
    have hgs : s.isGeoJson = true := by rwa [Source.isGeoJson, ← htype]
    obtain ⟨-, data, hd, hok, hown⟩ := data_of_result hgs hr
    exact ⟨s, data, hs, hd, hok, hown⟩

end

/-! ## Refused or loaded -/

section

variable {loader : Loader} {r : Resources} {input : Input}

theorem load_of_refused {fault : LinkFault} (h : Refused loader r input fault) :
    ((load loader input).runWith r).1 = .error fault := by
  cases h with
  | unread hread => rw [(load_yields_of_unread hread).runWith]
  | rejected hread hdoc => rw [(load_yields_of_rejected hread (prepare_of_rejected hdoc)).runWith]
  | dangling hread hdoc hstrict hfirst href =>
    have hp := prepare_eq_error hdoc hfirst href
    rw [← hstrict] at hp
    rw [(load_yields_of_rejected hread hp).runWith]

theorem load_of_gives {value : Json} {document : Document}
    (hread : input.Gives loader.provider r value) (hdoc : Document.ofJson value = .ok document)
    (hd : loader.strict = true → ∀ l ∈ document.layers, dangles document.layers l = false) :
    ((load loader input).runWith r).1 = .ok (arrived loader.provider r document) := by
  rw [(load_yields_of_prepared hread (prepare_eq_ok hdoc hd)).runWith]
  rfl

theorem refused_or_gives (loader : Loader) (r : Resources) (input : Input) :
    (∃ fault, Refused loader r input fault) ∨
      ∃ value document, input.Gives loader.provider r value ∧
        Document.ofJson value = .ok document ∧
        (loader.strict = true → ∀ l ∈ document.layers, dangles document.layers l = false) := by
  obtain ⟨value, hgives⟩ | ⟨fault, hfails⟩ := gives_or_fails loader.provider r input
  · cases hdoc : Document.ofJson value with
    | error fault => exact .inl ⟨_, .rejected hgives hdoc⟩
    | ok document =>
      by_cases hd : loader.strict = true →
          ∀ l ∈ document.layers, dangles document.layers l = false
      · exact .inr ⟨value, document, hgives, hdoc, hd⟩
      · obtain ⟨hstrict, hsome⟩ := Classical.not_imp.1 hd
        obtain ⟨l, missing, hfirst, href⟩ := Resolution.exists_find?_dangles hsome
        exact .inl ⟨_, .dangling hgives hdoc hstrict hfirst href⟩
  · exact .inl ⟨fault, .unread hfails⟩

end

/-- A style is refused exactly because its document cannot be had, is refused or, for a strict
loader, has a reference that dangles, of which the first is named. Any other is loaded: in whatever
order answers come, all of them come, what has then arrived is the style, and it accounts for every
source and the sprite. -/
theorem load_refused_or_accounts (loader : Loader) (input : Input) (r : Resources) :
    (∀ fault, ((load loader input).runWith r).1 = .error fault ↔ Refused loader r input fault) ∧
    ((∀ fault, ¬ Refused loader r input fault) → ∃ value document loaded,
      input.Gives loader.provider r value ∧
      Document.ofJson value = .ok document ∧
      (loader.strict = true → ∀ l ∈ document.layers, dangles document.layers l = false) ∧
      ((∀ members, value.member? "sources" = some (.object members) → Table.IsSorted members) →
        Table.IsSorted document.sources) ∧
      ((load loader input).runWith r).1 = .ok loaded ∧
      (∀ flight, Flight.Run r (Flight.launch loader.provider document) flight →
        (∃ final o, Flight.Run r flight final ∧ final.outcome? = some o) ∧
        ∀ o, flight.outcome? = some o →
          assemble loader.provider (resolved document) (danglingReports document) o = loaded) ∧
      Accounts loader.provider r document loaded) := by
  constructor
  · intro fault
    refine ⟨fun hload => ?_, load_of_refused⟩
    obtain ⟨other, hother⟩ | ⟨value, document, hgives, hdoc, hd⟩ := refused_or_gives loader r input
    · obtain rfl : other = fault :=
        Except.error.inj ((load_of_refused hother).symm.trans hload)
      exact hother
    · cases (load_of_gives hgives hdoc hd).symm.trans hload
  · intro hnone
    obtain ⟨fault, hrefused⟩ | ⟨value, document, hgives, hdoc, hd⟩ :=
      refused_or_gives loader r input
    · exact absurd hrefused (hnone fault)
    · refine ⟨value, document, arrived loader.provider r document, hgives, hdoc, hd,
        Document.isSorted_sources hdoc, load_of_gives hgives hdoc hd, fun flight hrun => ?_,
        accounts_arrived (Document.type_not_mem_extra hdoc)⟩
      -- What has arrived at the end of the run is what was going to arrive at its start.
      refine ⟨Flight.exists_arrived r flight, fun o ho => ?_⟩
      rw [arrived, ← Flight.outcome_of_run hrun, Flight.outcome_of_outcome? ho]

/-! ### A town

A style with a source of each kind, a reference that dangles and a sprite that is not answered. -/

def townStyle : Json :=
  .object [
    ("glyphs", .string "mapbox://fonts/town"),
    ("layers", .array [
      .object [("id", .string "streets"), ("source", .string "tiles"), ("type", .string "line")],
      .object [("id", .string "paths"), ("ref", .string "streets")],
      .object [("id", .string "parks"), ("ref", .string "woods")]]),
    ("sources", .object [
      ("lost", .object [("type", .string "geojson")]),
      ("stops", .object [("data", .string "http://town/stops"), ("type", .string "geojson")]),
      ("tiles", .object [("type", .string "vector"), ("url", .string "mapbox://town.tiles")])]),
    ("sprite", .string "http://town/sprite"),
    ("version", .number (.natural 8))]

def townStreets : Layer :=
  { Layer.ofKind "streets" .line with source := some "tiles" }

def townParks : Layer :=
  { Layer.ofKind "parks" .line with kind := none, reference := some "woods" }

def townDocument : Document where
  version := 8
  name := none
  sources := [
    ("lost", ⟨"geojson", none, none, []⟩),
    ("stops", ⟨"geojson", none, some (.string "http://town/stops"), []⟩),
    ("tiles", ⟨"vector", some "mapbox://town.tiles", none, []⟩)]
  layers := [townStreets,
    { Layer.ofKind "paths" .line with kind := none, reference := some "streets" }, townParks]
  sprite := some "http://town/sprite"
  glyphs := some "mapbox://fonts/town"
  extra := []

def townAnswers : Resources where
  json url :=
    if url = "http://api/v4/town.tiles.json?secure&access_token=key" then
      .ok (.object [("minzoom", .number (.natural 1)), ("type", .string "tiles")])
    else if url = "http://town/stops" then .ok (.object [("type", .string "Point")])
    else .error (.status url 404)
  image url := .error (.status url 404)
  file path := .error path

def townLoaded : LoadedStyle where
  document := {
    version := 8
    name := none
    sources := [
      ("stops", ⟨"geojson", none, some (.object [("type", .string "Point")]), []⟩),
      ("tiles", ⟨"vector", some "mapbox://town.tiles", none, [("minzoom", .number (.natural 1))]⟩)]
    layers := [townStreets, { townStreets with id := "paths" },
      { Layer.ofKind "parks" .line with kind := none }]
    sprite := some "http://town/sprite"
    glyphs := some "http://api/fonts/v1/town?access_token=key"
    extra := [] }
  sprite := none
  diagnostics := [
    ⟨.danglingReference, "parks", "references missing layer 'woods'"⟩,
    ⟨.sourceUnavailable, "lost", "Invalid GeoJSON: geojson source has no data"⟩,
    ⟨.spriteUnavailable, "http://town/sprite", "HTTP 404 fetching http://town/sprite.png"⟩]

/-- The town is loaded, unless no reference may dangle or what is said to be the town is no JSON. -/
theorem load_refused_or_accounts_town :
    Accounts (.of "key" "http://api/" 1.0) townAnswers townDocument townLoaded ∧
    ((load ⟨.of "key" "http://api/" 1.0, true⟩ (.value townStyle)).runWith townAnswers).1 =
      .error (.style (.danglingReference "parks" "woods")) ∧
    ((load ⟨.of "key" "http://api/" 1.0, true⟩ (.url "mapbox://styles/town")).runWith
        { townAnswers with json := fun url => .error (.invalidJson url "expected value") }).1 =
      .error (.invalidJson "http://api/styles/v1/town?access_token=key" "expected value") := by
  refine ⟨?_, ?_, ?_⟩
  · have hload : ((load ⟨.of "key" "http://api/" 1.0, false⟩ (.value townStyle)).runWith
        townAnswers).1 = .ok townLoaded := rfl
    obtain ⟨hrefused, haccounts⟩ :=
      load_refused_or_accounts ⟨.of "key" "http://api/" 1.0, false⟩ (.value townStyle) townAnswers
    have hnone (fault : LinkFault) : ¬ Refused ⟨.of "key" "http://api/" 1.0, false⟩ townAnswers
        (.value townStyle) fault := by
      intro h
      cases hload.symm.trans ((hrefused fault).2 h)
    obtain ⟨value, document, loaded, hgives, hdoc, -, -, hloaded, -, hall⟩ := haccounts hnone
    obtain rfl : townLoaded = loaded := Except.ok.inj (hload.symm.trans hloaded)
    cases hgives
    obtain rfl : townDocument = document := Except.ok.inj hdoc
    exact hall
  · refine ((load_refused_or_accounts _ _ _).1 _).2 ?_
    have hdoc : Document.ofJson townStyle = .ok townDocument := rfl
    have hfirst : townDocument.layers.find? (dangles townDocument.layers) = some townParks := rfl
    exact .dangling (.value _) hdoc rfl hfirst rfl
  · refine ((load_refused_or_accounts _ _ _).1 _).2 ?_
    exact .unread (.unanswered rfl)

end Loader

end StyledMap
