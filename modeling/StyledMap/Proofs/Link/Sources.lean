import StyledMap.Proofs.Link.Links
import StyledMap.Proofs.Link.Task
import StyledMap.Proofs.Merging

/-! # Sources, one by one

* `sourceTask` is what there is to do for a source: nothing, or to wait for its link.
* `expandSource_yields`: to expand a source is to do its task.
* `pending?_sourceTask` and `requests_sourceTask`: a source waits for its link, and for nothing else.
* `result_sourceTask_congr`: what a source becomes depends on the answer of its own link only.
* `Expands`: what a source becomes, with one case for each way in which it is had.
* `type_of_result` and `data_of_result`: a source keeps its type, and GeoJSON has data.
* `count_available_add_reports`: a source is had or reported.
-/

set_option autoImplicit false

namespace StyledMap.Loader

open Session

variable {p : Provider} {r : Resources} {s : Source}

def sourceTask (p : Provider) (s : Source) : Task (Except LinkFault Source) :=
  if s.isGeoJson then
    match s.data with
    | some (.string url) => .json url fun response => .done do
      let data ← response
      checkGeoJson data
      return { s with data := some data }
    | some data => .done do
      checkGeoJson data
      return s
    | none => .done (.error .geoJsonWithoutData)
  else
    match s.url with
    | none => .done (.ok s)
    | some url => .json (p.tileUrl url) fun response =>
      .done (response.bind (mergeMetadata s (p.tileUrl url)))

theorem expandSource_yields (p : Provider) (r : Resources) (s : Source) :
    (expandSource p s).Yields r ((sourceTask p s).result r) ((sourceTask p s).requests r) := by
  unfold expandSource sourceTask
  by_cases hg : s.isGeoJson = true
  · simp only [if_pos hg, expandGeoJson]
    cases s.data with
    | none => exact yields_pure _
    | some data =>
      cases data with
      | string url => exact yields_bind (yields_json url) (yields_pure _)
      | _ => exact yields_pure _
  · simp only [if_neg hg]
    cases s.url with
    | none => exact yields_pure _
    | some url => exact yields_bind (yields_json (p.tileUrl url)) (yields_pure _)

theorem expandSource_result (p : Provider) (r : Resources) (s : Source) :
    ((expandSource p s).runWith r).1 = (sourceTask p s).result r := by
  rw [(expandSource_yields p r s).runWith]

theorem pending?_sourceTask (p : Provider) (s : Source) :
    (sourceTask p s).pending? = s.link?.map (Link.request p) := by
  unfold sourceTask Source.link?
  split
  · split
    · next url h => rw [h]; rfl
    · next data hne h =>
      rw [h]
      cases data with
      | string url => exact absurd rfl (hne url)
      | _ => rfl
    · next h => rw [h]; rfl
  · cases s.url with
    | none => rfl
    | some url =>
      change some (Request.json (p.tileUrl url)) = some ((Link.metadata url).request p)
      rw [← Link.address_metadata]
      rfl

/-- A source asks for its link and, when that is answered, for nothing more. -/
theorem requests_sourceTask (p : Provider) (r : Resources) (s : Source) :
    (sourceTask p s).requests r = (s.link?.map (Link.request p)).toList := by
  rw [← pending?_sourceTask]
  unfold sourceTask
  split
  · split <;> rfl
  · split <;> rfl

/-- What a source becomes depends on the answer of its own link only. -/
theorem result_sourceTask_congr {r' : Resources}
    (h : ∀ link ∈ s.link?, r'.json (link.address p) = r.json (link.address p)) :
    (sourceTask p s).result r' = (sourceTask p s).result r := by
  unfold Source.link? at h
  unfold sourceTask
  split
  · next hg =>
    rw [if_pos hg] at h
    split
    · next url hd =>
      have hanswer := h (.data url) (by rw [hd]; rfl)
      rw [Link.address_data] at hanswer
      simp only [Task.result, hanswer]
    · rfl
    · rfl
  · next hg =>
    rw [if_neg hg] at h
    split
    · rfl
    · next url hu =>
      have hanswer := h (.metadata url) (by rw [hu]; rfl)
      rw [Link.address_metadata] at hanswer
      simp only [Task.result, hanswer]

/-! ## GeoJSON -/

/-- Whether a value is an object with a type. -/
def isGeoJsonData (data : Json) : Prop :=
  ∃ type, data.member? "type" = some (.string type)

theorem checkGeoJson_eq_ok {data : Json} : checkGeoJson data = .ok () ↔ isGeoJsonData data := by
  unfold checkGeoJson isGeoJsonData
  split
  · next type h => exact iff_of_true rfl ⟨type, h⟩
  · next h => exact iff_of_false (by simp) fun ⟨type, ht⟩ => h type ht

/-! ## What a source becomes -/

/-- What a source becomes. -/
inductive Expands (p : Provider) (r : Resources) (s : Source) : Source → Prop
  /-- GeoJSON holds its own data or the answer of its link. -/
  | geoJson {data : Json} : s.isGeoJson = true → isGeoJsonData data →
    (s.data = some data ∨ ∃ url, s.data = some (.string url) ∧ r.json url = .ok data) →
    Expands p r s { s with data := some data }
  /-- Any other source without a link stays as it is. -/
  | unlinked : ¬ s.isGeoJson = true → s.url = none → Expands p r s s
  /-- One with a link is merged with the metadata that it leads to. -/
  | merged {url : String} {info : Table Json} {s' : Source} : ¬ s.isGeoJson = true →
    s.url = some url → r.json (p.tileUrl url) = .ok (.object info) →
    s.mergedWith info = .ok s' → Expands p r s s'

theorem expands_of_result {s' : Source} (h : (sourceTask p s).result r = .ok s') :
    Expands p r s s' := by
  unfold sourceTask at h
  split at h
  · next hg =>
    split at h
    · next url hd =>
      obtain ⟨data, hr, h⟩ := Reading.bind_eq_ok.1 h
      obtain ⟨_, hc, h⟩ := Reading.bind_eq_ok.1 h
      obtain rfl := Reading.pure_eq_ok.1 h
      exact .geoJson hg (checkGeoJson_eq_ok.1 hc) (.inr ⟨url, hd, hr⟩)
    · next data _ hd =>
      obtain ⟨_, hc, h⟩ := Reading.bind_eq_ok.1 h
      obtain rfl := Reading.pure_eq_ok.1 h
      have hs : Expands p r s { s with data := some data } :=
        .geoJson hg (checkGeoJson_eq_ok.1 hc) (.inl hd)
      rw [← hd] at hs
      exact hs
    · simp [Task.result] at h
  · next hg =>
    split at h
    · next hu =>
      rw [← Except.ok.inj h]
      exact .unlinked hg hu
    · next url hu =>
      obtain ⟨info, hr, h⟩ := Reading.bind_eq_ok.1 h
      unfold mergeMetadata at h
      split at h
      · exact .merged hg hu hr (Reading.mapError_eq_ok.1 h)
      · simp at h

/-- What a source becomes is what its task ends with. -/
theorem result_of_expands {s' : Source} (h : Expands p r s s') :
    (sourceTask p s).result r = .ok s' := by
  unfold sourceTask
  cases h with
  | geoJson hg hok hown =>
    have hcheck := checkGeoJson_eq_ok.2 hok
    obtain ⟨type, htype⟩ := hok
    rw [if_pos hg]
    obtain hd | ⟨url, hd, hr⟩ := hown
    · split
      · next url hs =>
        -- A link is a text, and a text has no type.
        obtain rfl := Option.some.inj (hs.symm.trans hd)
        cases htype
      · next data' _ hs =>
        obtain rfl := Option.some.inj (hs.symm.trans hd)
        rw [← hd]
        exact Reading.bind_eq_ok.2 ⟨(), hcheck, rfl⟩
      · next hs => simp [hs] at hd
    · rw [hd]
      exact Reading.bind_eq_ok.2 ⟨_, hr, Reading.bind_eq_ok.2 ⟨(), hcheck, rfl⟩⟩
  | unlinked hg hu =>
    rw [if_neg hg, hu]
    rfl
  | merged hg hu hr hm =>
    rw [if_neg hg, hu]
    refine Reading.bind_eq_ok.2 ⟨_, hr, ?_⟩
    exact Reading.mapError_eq_ok.2 hm

/-- A source of GeoJSON that is had holds its own data or the answer of its link. -/
theorem data_of_result {s' : Source} (hg : s.isGeoJson = true)
    (h : (sourceTask p s).result r = .ok s') :
    s'.type = s.type ∧ ∃ data, s'.data = some data ∧ isGeoJsonData data ∧
      (s.data = some data ∨ ∃ url, s.data = some (.string url) ∧ r.json url = .ok data) := by
  cases expands_of_result h with
  | geoJson _ hok hown => exact ⟨rfl, _, rfl, hok, hown⟩
  | unlinked hng => exact absurd hg hng
  | merged hng => exact absurd hg hng

/-! ## Metadata -/

theorem type_of_result {s' : Source} (he : "type" ∉ s.extra.keys)
    (h : (sourceTask p s).result r = .ok s') : s'.type = s.type := by
  cases expands_of_result h with
  | geoJson => rfl
  | unlinked => rfl
  | merged _ _ _ hm => exact Source.type_of_mergedWith he hm

/-! ## Had or reported -/

/-- How often an id is reported as an unavailable source. -/
def reports (diagnostics : List Diagnostic) (id : String) : Nat :=
  diagnostics.countP fun d => d.kind = .sourceUnavailable ∧ d.subject = id

theorem reports_append (ds es : List Diagnostic) (id : String) :
    reports (ds ++ es) id = reports ds id + reports es id :=
  List.countP_append

theorem reports_eq_zero {ds : List Diagnostic} (h : ∀ d ∈ ds, d.kind ≠ .sourceUnavailable)
    (id : String) : reports ds id = 0 := by
  refine List.countP_eq_zero.2 fun d hd => ?_
  simp [h d hd]

variable {expanded : Table (Except LinkFault Source)}

theorem mem_available_iff {id : String} {s : Source} :
    (id, s) ∈ available expanded ↔ (id, .ok s) ∈ expanded := by
  unfold available
  rw [List.mem_filterMap]
  constructor
  · rintro ⟨⟨key, result⟩, he, h⟩
    cases result with
    | ok s' =>
      obtain ⟨rfl, rfl⟩ := Prod.mk.inj (Option.some.inj h)
      exact he
    | error fault => simp at h
  · intro he
    exact ⟨_, he, rfl⟩

theorem mem_unavailable_iff {d : Diagnostic} :
    d ∈ unavailable expanded ↔ ∃ id fault, (id, .error fault) ∈ expanded ∧
      d = ⟨.sourceUnavailable, id, LinkFault.message fault⟩ := by
  unfold unavailable
  rw [List.mem_filterMap]
  constructor
  · rintro ⟨⟨key, result⟩, he, h⟩
    cases result with
    | ok s => simp at h
    | error fault => exact ⟨key, fault, he, (Option.some.inj h).symm⟩
  · rintro ⟨id, fault, he, rfl⟩
    exact ⟨_, he, rfl⟩

theorem kind_of_mem_unavailable {d : Diagnostic} (h : d ∈ unavailable expanded) :
    d.kind = .sourceUnavailable := by
  obtain ⟨id, fault, -, rfl⟩ := mem_unavailable_iff.1 h
  rfl

/-- The sources that are reported stand in the order of the table. -/
theorem subjects_unavailable_sublist (expanded : Table (Except LinkFault Source)) :
    ((unavailable expanded).map Diagnostic.subject).Sublist expanded.keys := by
  induction expanded with
  | nil => exact .slnil
  | cons entry rest ih =>
    obtain ⟨id, result⟩ := entry
    cases result with
    | ok s => exact ih.cons id
    | error fault => exact ih.cons_cons id

theorem count_available_add_reports (expanded : Table (Except LinkFault Source)) (id : String) :
    (available expanded).keys.count id + reports (unavailable expanded) id =
      expanded.keys.count id := by
  induction expanded with
  | nil => rfl
  | cons entry rest ih =>
    obtain ⟨key, result⟩ := entry
    cases result with
    | ok s =>
      have ha : (available ((key, .ok s) :: rest)).keys = key :: (available rest).keys := rfl
      have hu : unavailable ((key, .ok s) :: rest) = unavailable rest := rfl
      rw [ha, hu, Table.keys_cons, List.count_cons, List.count_cons, ← ih]
      omega
    | error fault =>
      have ha : available ((key, .error fault) :: rest) = available rest := rfl
      have hu : unavailable ((key, .error fault) :: rest) =
        ⟨.sourceUnavailable, key, fault.message⟩ :: unavailable rest := rfl
      rw [ha, hu, Table.keys_cons, List.count_cons, reports, List.countP_cons, ← ih, reports]
      simp only [decide_eq_true_eq, true_and, beq_iff_eq]
      omega

end StyledMap.Loader
