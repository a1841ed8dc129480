import StyledMap.Evaluator
import StyledMap.Proofs.Reading
import StyledMap.Proofs.Stops

/-! # Evaluators read within their lists

Positions and outputs of stops are lists of their own, and so are the zoom levels and the curves of
a function of both. They are read by index, and nothing checks an index.

* `Interpolator.IsSound`, `Curve.IsSound` and `Evaluator.IsSound`: the lists that are read by the
  same indices have the same length, and an interpolator has two stops at least.
* `Interpolator.exists_evaluate?`: a sound interpolator has an output at every input.
* `Outputs.length_ofStops`: outputs of one type are all read, so that none is missing at its index.
* `evaluate?_of_compile`: what is compiled is sound, and has a value at every zoom level for every
  feature.
-/

set_option autoImplicit false

namespace StyledMap

variable {α : Type}

theorem eq_some_getD {value : Option α} (default : α) (h : ∃ v, value = some v) :
    value = some (value.getD default) := by
  obtain ⟨v, rfl⟩ := h
  rfl

/-! ## Outputs -/

namespace Outputs

theorem exists_get? {outputs : Outputs α} {k : Nat} (h : k < outputs.length) :
    ∃ v, outputs.get? k = some v := by
  cases outputs with
  | numbers xs => exact ⟨_, by rw [get?, List.getElem?_eq_getElem h, Option.map_some]⟩
  | colors cs => exact ⟨_, by rw [get?, List.getElem?_eq_getElem h, Option.map_some]⟩
  | values vs => exact ⟨_, List.getElem?_eq_getElem h⟩

variable [Arith α]

theorem exists_blend? {outputs : Outputs α} {lower upper : Nat} (hl : lower < outputs.length)
    (hu : upper < outputs.length) (t : α) : ∃ v, outputs.blend? lower t upper = some v := by
  cases outputs with
  | numbers xs =>
    rw [blend?, List.getElem?_eq_getElem hl, List.getElem?_eq_getElem hu]
    exact ⟨_, rfl⟩
  | colors cs =>
    rw [blend?, List.getElem?_eq_getElem hl, List.getElem?_eq_getElem hu]
    exact ⟨_, rfl⟩
  | values vs => exact ⟨_, List.getElem?_eq_getElem hl⟩

theorem isSome_asFloat? {value : Json} (h : StopKind.ofJson α value = .number) :
    value.asFloat?.isSome = true := by
  cases value with
  | number n => rfl
  | string s =>
    rw [StopKind.ofJson] at h
    split at h <;> simp at h
  | _ => simp [StopKind.ofJson] at h

theorem isSome_parse? {value : Json} (h : StopKind.ofJson α value = .color) :
    (value.asString?.bind (Color.parse? (α := α))).isSome = true := by
  cases value with
  | string s =>
    rw [StopKind.ofJson] at h
    split at h
    · assumption
    · simp at h
  | _ => simp [StopKind.ofJson] at h

/-- Of stops whose outputs have one type no output is left out. -/
theorem length_ofStops {kind : StopKind} {stops : List (α × Json)}
    (h : ∀ stop ∈ stops, StopKind.ofJson α stop.2 = kind) :
    (ofStops kind stops).length = stops.length := by
  cases kind with
  | number =>
    rw [ofStops, length, List.length_filterMap_eq_countP, List.countP_eq_length]
    intro stop hs
    rw [Option.isSome_map]
    exact isSome_asFloat? (h stop hs)
  | color =>
    rw [ofStops, length, List.length_filterMap_eq_countP, List.countP_eq_length]
    exact fun stop hs => isSome_parse? (h stop hs)
  | string | bool | other => exact List.length_map _

end Outputs

/-! ## Interpolators -/

namespace Interpolator

/-- An interpolator has two stops at least, and an output for each position. -/
structure IsSound (i : Interpolator α) : Prop where
  two_le : 2 ≤ i.positions.length
  length_outputs : i.outputs.length = i.positions.length

variable {i : Interpolator α}

theorem IsSound.toStepping (h : i.IsSound) : i.toStepping.IsSound :=
  ⟨h.two_le, h.length_outputs⟩

variable [Arith α] {stops : List (α × Json)}

theorem isSound_of_ofStops? {base : α} (h : ofStops? stops base = some i) : i.IsSound := by
  unfold ofStops? at h
  split at h
  · next first second rest =>
    simp only at h
    split at h
    · next hkind =>
      obtain rfl := Option.some.inj h
      refine ⟨by simp, (Outputs.length_ofStops fun stop hs => ?_).trans (List.length_map _).symm⟩
      exact beq_iff_eq.1 (List.all_eq_true.1 hkind stop hs)
    · simp at h
  · simp at h

theorem isSound_of_stepping? {colors : Bool} (h : stepping? colors stops = some i) :
    i.IsSound := by
  unfold stepping? at h
  split at h
  · obtain rfl := Option.some.inj h
    exact ⟨by simp, by simp [Outputs.length]⟩
  · simp at h

theorem exists_between? (h : i.IsSound) {lower upper : Nat} (hl : lower < i.positions.length)
    (hu : upper < i.positions.length) (x : α) : ∃ v, i.between? lower x upper = some v := by
  rw [between?, List.getElem?_eq_getElem hl, List.getElem?_eq_getElem hu]
  rw [← h.length_outputs] at hl hu
  cases hs : i.scale with
  | step => exact Outputs.exists_get? hl
  | linear => exact Outputs.exists_blend? hl hu _
  | exponential base => exact Outputs.exists_blend? hl hu _

/-- A sound interpolator has an output at every input, whatever the order of its positions and even
if the input compares with none of them. -/
theorem exists_evaluate? (h : i.IsSound) (x : α) : ∃ v, i.evaluate? x = some v := by
  unfold evaluate?
  cases hp : locate? x i.positions with
  | none =>
    have hnil := locate?_eq_none.1 hp
    have htwo := h.two_le
    simp [hnil] at htwo
  | some place =>
    have hw := isWithin_of_locate? hp
    cases place with
    | «at» k => exact Outputs.exists_get? (h.length_outputs ▸ hw)
    | between lower upper => exact exists_between? h hw.1 hw.2 x

end Interpolator

/-! ## Curves -/

namespace Curve

variable [Arith α]

/-- The interpolator of a curve, if there is one, is sound. -/
def IsSound (curve : Curve α) : Prop :=
  ∀ i, curve = interpolated i → i.IsSound

variable {curve : Curve α} {colors : Bool} {base : α} {kind : FunctionKind}

theorem isSound_of_interpolatorOf? {stops : List (α × Json)} {i : Interpolator α}
    (h : interpolatorOf? colors base stops = some i) : i.IsSound := by
  unfold interpolatorOf? at h
  split at h
  · next hi =>
    obtain rfl := Option.some.inj h
    exact Interpolator.isSound_of_ofStops? hi
  · exact Interpolator.isSound_of_stepping? h

/-- Numeric stops have a sound interpolator, unless they have one output or none. -/
theorem ofNumericStops_cases (colors : Bool) (base : α) (kind : FunctionKind)
    (stops : List (α × Json)) :
    ofNumericStops colors base kind stops = fallback ∨
      (∃ v, ofNumericStops colors base kind stops = constant v) ∨
      ∃ i, ofNumericStops colors base kind stops = interpolated i ∧ i.IsSound := by
  unfold ofNumericStops
  split
  · exact .inl rfl
  · exact .inr (.inl ⟨_, rfl⟩)
  · split
    · exact .inl rfl
    · next i hi =>
      have hs := isSound_of_interpolatorOf? hi
      refine .inr (.inr ⟨_, rfl, ?_⟩)
      split
      · exact hs.toStepping
      · exact hs

theorem isSound_ofNumericStops (stops : List (α × Json)) :
    (ofNumericStops colors base kind stops).IsSound := by
  intro i hi
  obtain h | ⟨v, h⟩ | ⟨j, h, hj⟩ := ofNumericStops_cases colors base kind stops
  · simp [h] at hi
  · simp [h] at hi
  · rw [h] at hi
    obtain rfl := interpolated.inj hi
    exact hj

theorem isSound_ofStops (colors : Bool) (base : α) (kind : FunctionKind)
    (stops : List (Json × Json)) : (ofStops colors base kind stops).IsSound := by
  cases kind with
  | identity => simp [IsSound, ofStops]
  | categorical => simp [IsSound, ofStops, ofCategories]
  | exponential | interval => exact isSound_ofNumericStops _

theorem exists_output? (h : curve.IsSound) (input : Json) (default : Value α) :
    ∃ v, curve.output? input default = some v := by
  cases curve with
  | interpolated i =>
    rw [output?]
    cases input.asFloat? with
    | none => exact ⟨_, rfl⟩
    | some x => exact Interpolator.exists_evaluate? (h i rfl) _
  | _ => exact ⟨_, rfl⟩

theorem lookup?_eq_some (h : curve.IsSound) (input : Option Json) (default : Value α) :
    curve.lookup? input default = some (curve.lookup input default) := by
  refine eq_some_getD Value.null ?_
  cases input with
  | none => exact ⟨_, rfl⟩
  | some input => exact exists_output? h input default

end Curve

/-! ## Evaluators -/

namespace Evaluator

variable [Arith α]

/-- The curve of a function of the zoom level alone is an interpolator, a function of the zoom level
and a property has a curve for each zoom level, and all curves are sound. -/
def IsSound : Evaluator α → Prop
  | constant _ => True
  | zoom curve _ => ∃ i, curve = .interpolated i ∧ i.IsSound
  | property _ curve _ => curve.IsSound
  | zoomAndProperty _ zooms curves _ _ =>
    curves.length = zooms.length ∧ ∀ curve ∈ curves, curve.IsSound

variable {e : Evaluator α}

theorem isSound_ofZoom (colors : Bool) (default : Value α) (f : ZoomFunction) :
    (ofZoom colors default f).IsSound := by
  simp only [ofZoom]
  obtain h | ⟨v, h⟩ | ⟨i, h, hi⟩ := Curve.ofNumericStops_cases colors (Arith.ofDouble f.base)
    f.kind (f.stops.map fun stop => ((Arith.ofDouble stop.1 : α), stop.2))
  · rw [h]
    trivial
  · rw [h]
    trivial
  · rw [h]
    exact ⟨i, rfl, hi⟩

/-- A function of the zoom level gives what its curve gives, also where it is compiled to a
constant. -/
theorem evaluate?_ofZoom_eq_atZoom? (colors : Bool) (default : Value α) (f : ZoomFunction) (z : α)
    (feature : Feature) :
    (ofZoom colors default f).evaluate? z feature =
      (Curve.ofNumericStops colors (Arith.ofDouble f.base) f.kind
        (f.stops.map fun stop => (Arith.ofDouble stop.1, stop.2))).atZoom? z default := by
  simp only [ofZoom]
  obtain h | ⟨v, h⟩ | ⟨i, h, -⟩ := Curve.ofNumericStops_cases colors (Arith.ofDouble f.base)
    f.kind (f.stops.map fun stop => ((Arith.ofDouble stop.1 : α), stop.2)) <;>
    rw [h] <;> rfl

theorem isSound_ofZoomAndProperty (colors : Bool) (default : Value α) (f : ZoomPropertyFunction) :
    (ofZoomAndProperty colors default f).IsSound := by
  refine ⟨?_, fun curve hc => ?_⟩
  · rw [List.length_map, List.length_map]
  · obtain ⟨stop, -, rfl⟩ := List.mem_map.1 hc
    exact Curve.isSound_ofStops colors _ f.kind stop.2

theorem isSound_ofDeclaration (colors : Bool) (default : Value α) (d : Declaration) :
    (ofDeclaration colors default d).IsSound := by
  cases d with
  | constant value => trivial
  | zoom f => exact isSound_ofZoom colors default f
  | property f => exact Curve.isSound_ofStops colors _ f.kind f.stops
  | zoomAndProperty f => exact isSound_ofZoomAndProperty colors default f

theorem isSound_of_compile {name : String} {declared default : Option Json}
    (h : compile name declared default = .ok e) : e.IsSound := by
  cases declared with
  | none =>
    obtain rfl := Except.ok.inj h
    trivial
  | some value =>
    obtain ⟨d, -, rfl⟩ := Reading.map_eq_ok.1 h
    exact isSound_ofDeclaration _ _ d

theorem exists_between? {output? : Nat → Option (Value α)} {zooms : List α} {lower upper : Nat}
    (ho : ∀ k < zooms.length, ∃ v, output? k = some v) (hl : lower < zooms.length)
    (hu : upper < zooms.length) (scale : Scale α) (z : α) :
    ∃ v, between? output? zooms scale lower z upper = some v := by
  obtain ⟨below, hbelow⟩ := ho lower hl
  obtain ⟨above, habove⟩ := ho upper hu
  rw [between?, hbelow, habove, List.getElem?_eq_getElem hl, List.getElem?_eq_getElem hu]
  cases scale <;> exact ⟨_, rfl⟩

/-- A sound evaluator has a value at every zoom level for every feature. -/
theorem exists_evaluate? (h : e.IsSound) (z : α) (f : Feature) :
    ∃ v, e.evaluate? z f = some v := by
  cases e with
  | constant value => exact ⟨value, rfl⟩
  | zoom curve default =>
    obtain ⟨i, rfl, hi⟩ := h
    exact Interpolator.exists_evaluate? hi z
  | property name curve default => exact ⟨_, Curve.lookup?_eq_some h _ default⟩
  | zoomAndProperty name zooms curves scale default =>
    obtain ⟨hlength, hcurves⟩ := h
    have ho : ∀ k < zooms.length, ∃ v, (curves[k]?.bind fun curve =>
        curve.lookup? (f.property? name) default) = some v := by
      intro k hk
      rw [← hlength] at hk
      rw [List.getElem?_eq_getElem hk, Option.bind_some]
      exact ⟨_, Curve.lookup?_eq_some (hcurves _ (List.getElem_mem hk)) _ default⟩
    rw [evaluate?]
    cases hp : locate? z zooms with
    | none => exact ⟨default, rfl⟩
    | some place =>
      have hw := isWithin_of_locate? hp
      cases place with
      | «at» k => exact ho k hw
      | between lower upper => exact exists_between? ho hw.1 hw.2 scale z

/-- What is compiled is sound, and at every zoom level, be it a number or none, it has a value for
every feature. -/
theorem evaluate?_of_compile {name : String} {declared default : Option Json}
    (h : compile name declared default = .ok e) :
    e.IsSound ∧ ∀ z f, e.evaluate? z f = some (e.evaluate z f) := by
  have hs := isSound_of_compile h
  exact ⟨hs, fun z f => eq_some_getD Value.null (exists_evaluate? hs z f)⟩

/-- Colors by rank: below the zoom level five they blend, above it they step, since the outputs there
have two types. -/
def rankColors : Json :=
  let stop (input output : Json) : Json := .array [input, output]
  let low := [stop (Json.natural 0) (.string "red"), stop (Json.natural 9) (.string "#00f")]
  let high := [stop (Json.natural 0) (.string "none"), stop (Json.natural 4) (.string "red"),
    stop (Json.natural 9) (.bool false)]
  .object [("property", .string "rank"),
    ("stops", .array [stop (Json.natural 0) (.array low), stop (Json.natural 5) (.array high)])]

theorem evaluate?_of_compile_rankColors :
    ∃ e : Evaluator Float, compile "circle-color" (some rankColors) none = .ok e ∧ e.IsSound ∧
      ∀ f, e.evaluate? Double.nan f = some (e.evaluate Double.nan f) := by
  obtain ⟨e, he⟩ : ∃ e : Evaluator Float, compile "circle-color" (some rankColors) none = .ok e :=
    ⟨_, rfl⟩
  obtain ⟨hs, hv⟩ := evaluate?_of_compile he
  exact ⟨e, he, hs, hv Double.nan⟩

end Evaluator

end StyledMap
