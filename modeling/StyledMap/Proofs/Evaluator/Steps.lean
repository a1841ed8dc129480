import StyledMap.Proofs.Declaration.PlainStops
import StyledMap.Proofs.Evaluator.Fallback
import StyledMap.Proofs.Evaluator.ZoomStops

/-! # Functions that step

A function of kind `interval` steps at its stops. Stepping is built in several ways: an interpolator
of numbers or colors is made to step, one of mixed types steps by itself, and a function of the zoom
level and a property steps between its levels. All of them read the output at the place of the
input, of two neighbours at the lower one, and that alone makes a step function.

* `IsStepFunction`: what a step function of positions and outputs is.
* `isStepFunction_of_locate?`: reading the output at the place of the input is one.
* `Curve.exists_isStepFunction`: so is the curve of numeric stops, whichever it is.
* `Evaluator.compile_interval`: so is every function of kind `interval`.
-/

set_option autoImplicit false

namespace StyledMap

/-! ## Step functions -/

/-- A function of doubles changes only at positions. It has an output for each, and blends none with
another. Where the positions increase, the output at an index counts from its position on until
the next one is reached, and the first counts below all of them. -/
structure IsStepFunction {β : Type} (positions : List Float) (outputs : List β) (g : Float → β) :
    Prop where
  length_outputs : outputs.length = positions.length
  constant : ∀ x y, x ≤ y → (∀ p ∈ positions, ¬ (x < p ∧ p ≤ y)) → g x = g y
  mem : positions ≠ [] → ∀ x, g x ∈ outputs
  step : positions.Pairwise (· < ·) → ∀ k p v, positions[k]? = some p → outputs[k]? = some v →
    ∀ x, p ≤ x → (∀ next, positions[k + 1]? = some next → x < next) → g x = v
  first : ∀ p v, positions[0]? = some p → outputs[0]? = some v → ∀ x, x < p → g x = v

/-- The index of a place; of two neighbours that of the lower one. -/
def Place.lower : Place → Nat
  | .at k => k
  | .between lower _ => lower

theorem Place.lower_placeOf (k length : Nat) : (placeOf k length).lower = k := by
  unfold placeOf
  split <;> rfl

theorem Place.lower_lt {place : Place} {length : Nat} (h : place.IsWithin length) :
    place.lower < length := by
  cases place with
  | «at» k => exact h
  | between lower upper => exact h.1

section

variable {β : Type} {positions : List Float} {outputs : List β} {g : Float → β}

theorem exists_locate? (h : positions ≠ []) (x : Float) :
    ∃ place, locate? x positions = some place :=
  Option.ne_none_iff_exists'.1 fun hnone => h (locate?_eq_none.1 hnone)

/-- An input that is at least at a position, and below the next one, falls at it. -/
theorem locate?_of_le (hp : positions.Pairwise (· < ·)) {k : Nat} {p x : Float}
    (hk : positions[k]? = some p) (hle : p ≤ x)
    (hnext : ∀ next, positions[k + 1]? = some next → x < next) :
    locate? x positions = some (placeOf k positions.length) :=
  locate?_of_not_lt hp hk (Double.not_lt_of_le hle)
    (fun _ hq => Double.not_lt_of_lt_of_le hq hle) hnext

/-- Reading the output at the place of an input makes a step function. Without positions there is no
place, and nothing may change. -/
theorem isStepFunction_of_locate? (hlength : outputs.length = positions.length)
    (hnil : positions = [] → ∀ x y, g x = g y)
    (h : ∀ x place, locate? x positions = some place → outputs[place.lower]? = some (g x)) :
    IsStepFunction positions outputs g where
  length_outputs := hlength
  constant x y hxy hnone := by
    by_cases hpos : positions = []
    · exact hnil hpos x y
    · obtain ⟨place, hx⟩ := exists_locate? hpos x
      have hy : locate? y positions = some place := by
        rw [← hx, eq_comm]
        exact locate?_congr fun p hp => Double.lt_iff_of_le hxy (hnone p hp)
      exact Option.some.inj ((h x place hx).symm.trans (h y place hy))
  mem hpos x := by
    obtain ⟨place, hx⟩ := exists_locate? hpos x
    exact List.mem_of_getElem? (h x place hx)
  step hp k p v hk hv x hle hnext := by
    have hx := h x _ (locate?_of_le hp hk hle hnext)
    rw [Place.lower_placeOf, hv] at hx
    exact (Option.some.inj hx).symm
  first p v hp hv x hlt := by
    have hx := h x _ (locate?_first hp hlt)
    rw [Place.lower, hv] at hx
    exact (Option.some.inj hx).symm

theorem isStepFunction_const {v : β} (hlength : outputs.length = positions.length)
    (hv : ∀ w ∈ outputs, w = v) : IsStepFunction positions outputs fun _ => v := by
  refine isStepFunction_of_locate? hlength (fun _ _ _ => rfl) fun x place hplace => ?_
  have hlt : place.lower < outputs.length :=
    hlength ▸ Place.lower_lt (isWithin_of_locate? hplace)
  rw [List.getElem?_eq_getElem hlt, hv _ (List.getElem_mem hlt)]

end

/-! ## Interpolators and curves -/

/-- The outputs that stops have in a curve; `colors` as in `Value.ofJson`. -/
def outputsOf (colors : Bool) (stops : List (Float × Json)) : List (Value Float) :=
  stops.map fun stop => Value.ofJson (colors || areColors Float stops) stop.2

namespace Interpolator

variable {α : Type} [Arith α] {i : Interpolator α} {colors : Bool} {scale : Scale α}
  {stops : List (α × Json)} {x : α} {place : Place}

/-- An interpolator that steps reads the output at the place of the input. -/
theorem Reads.evaluate?_of_step (h : i.Reads colors scale stops) (hs : i.scale = .step)
    (hp : locate? x i.positions = some place) :
    i.evaluate? x = (stops.map fun stop => Value.ofJson colors stop.2)[place.lower]? := by
  have hwithin := isWithin_of_locate? hp
  have hlower := Place.lower_lt hwithin
  have hread : i.outputs.get? place.lower =
      (stops.map fun stop => Value.ofJson colors stop.2)[place.lower]? := by
    rw [h.positions, List.length_map] at hlower
    have hstop := List.getElem?_eq_getElem hlower
    rw [h.outputs _ _ hstop, List.getElem?_map, hstop, Option.map_some]
  rw [evaluate?, hp, ← hread]
  cases place with
  | «at» k => rfl
  | between lower upper =>
    simp only [between?, List.getElem?_eq_getElem hwithin.1, List.getElem?_eq_getElem hwithin.2, hs]
    rfl

end Interpolator

namespace Curve

variable {colors : Bool} {base : Float} {default : Value Float}

theorem output?_number {α : Type} [Arith α] (colors : Bool) (base : α) (kind : FunctionKind)
    (stops : List (α × Json)) (n : Number) (default : Value α) :
    (ofNumericStops colors base kind stops).output? (.number n) default =
      (ofNumericStops colors base kind stops).atZoom? (Arith.ofDouble n.toFloat) default := by
  obtain h | ⟨v, h⟩ | ⟨i, h, -⟩ := ofNumericStops_cases colors base kind stops <;> rw [h] <;> rfl

/-- A curve of several stops that steps reads the output at the place of the input. -/
theorem atZoom?_interval {stops : List (Float × Json)} (hlen : 2 ≤ stops.length) {x : Float}
    {place : Place} (hx : locate? x (stops.map Prod.fst) = some place) :
    (ofNumericStops colors base .interval stops).atZoom? x default =
      (outputsOf colors stops)[place.lower]? := by
  obtain ⟨i, hcurve, hreads⟩ := exists_ofNumericStops colors base .interval hlen
  rw [hcurve]
  exact hreads.evaluate?_of_step (hreads.scale.elim id id) (hreads.positions ▸ hx)

/-- The curve of numeric stops is a step function, if it is to step. -/
theorem exists_isStepFunction (colors : Bool) (base : Float) (stops : List (Float × Json))
    (default : Value Float) :
    ∃ g, IsStepFunction (stops.map Prod.fst) (outputsOf colors stops) g ∧
      ∀ x, (ofNumericStops colors base .interval stops).atZoom? x default = some (g x) := by
  match stops with
  | [] => exact ⟨fun _ => default, isStepFunction_const rfl (by simp [outputsOf]), fun _ => rfl⟩
  | [stop] =>
    refine ⟨fun _ => Value.ofJson colors stop.2, isStepFunction_const rfl ?_, fun _ => rfl⟩
    -- One color is read as any other value of the property is.
    have hone : areColors Float [stop] = false := rfl
    simp [outputsOf, hone]
  | first :: second :: rest =>
    let stops := first :: second :: rest
    let curve : Curve Float := ofNumericStops colors base .interval stops
    have hlen : 2 ≤ stops.length := by simp [stops]
    have htotal (x : Float) : curve.atZoom? x default =
        some ((curve.atZoom? x default).getD .null) := by
      obtain ⟨place, hx⟩ := exists_locate? (show stops.map Prod.fst ≠ [] by simp [stops]) x
      have hlt : place.lower < (outputsOf colors stops).length := by
        simpa [outputsOf] using Place.lower_lt (isWithin_of_locate? hx)
      exact eq_some_getD Value.null
        ⟨_, (atZoom?_interval hlen hx).trans (List.getElem?_eq_getElem hlt)⟩
    refine ⟨fun x => (curve.atZoom? x default).getD .null,
      isStepFunction_of_locate? (by simp [outputsOf]) (by simp) fun x place hx => ?_, htotal⟩
    rw [← atZoom?_interval hlen hx, ← htotal]

end Curve

/-! ## Declared functions -/

namespace Declaration

theorem isNumber_of_ofPropertyStops {property : String} {stops : List (Json × Json)} {base : Float}
    {kind : Option FunctionKind} {fallback : Option Json} {f : PropertyFunction}
    (h : ofPropertyStops property stops base kind fallback = .ok (.property f))
    (hk : f.kind.isNumeric = true) : ∀ stop ∈ f.stops, stop.1.isNumber = true := by
  cases stopsForm stops with
  | empty =>
    obtain rfl := Declaration.property.inj (Except.ok.inj h)
    simp
  | keyed members output stops =>
    obtain ⟨outer, -, hd⟩ := ofPropertyStops_keyed.1 h
    simp at hd
  | nested stops hi hn =>
    obtain ⟨outer, -, hd⟩ := (ofPropertyStops_nested hi hn).1 h
    simp at hd
  | flat stops hi hn =>
    obtain ⟨hall, hd⟩ := (ofPropertyStops_flat hi hn).1 h
    obtain rfl := Declaration.property.inj hd
    exact List.all_eq_true.1 (hall hk)

/-- The inputs of a function of a property that interpolates or steps are numbers. -/
theorem isNumber_of_mem_function {name : String} {raw : Json} {f : PropertyFunction}
    (h : ofJson name raw = .ok (.property f)) (hk : f.kind.isNumeric = true) :
    ∀ stop ∈ f.stops, stop.1.isNumber = true := by
  cases raw with
  | object members =>
    by_cases hf : isFunctionObject members = true
    · obtain ⟨base, kind, property, stops, -, -, -, -, hd⟩ :=
        ofMembers_eq_ok.1 ((ofJson_function hf).1 h)
      unfold ofParts at hd
      split at hd
      · obtain ⟨g, hg⟩ := ofZoomStops_eq_ok hd
        simp at hg
      · split at hd
        · obtain rfl := Declaration.property.inj (Except.ok.inj hd)
          simp
        · split at hd
          · exact isNumber_of_ofPropertyStops hd hk
          · simp at hd
    · rw [ofJson, if_neg hf] at h
      simp at h
  | _ => simp [ofJson] at h

end Declaration

namespace Evaluator

variable {z : Float} {feature : Feature}

theorem evaluate?_ofZoom (colors : Bool) (default : Value Float) (f : ZoomFunction) :
    (ofZoom colors default f).evaluate? z feature =
      (Curve.ofNumericStops colors f.base f.kind f.stops).atZoom? z default := by
  have hstops : (f.stops.map fun stop => ((Arith.ofDouble stop.1 : Float), stop.2)) = f.stops :=
    List.map_id f.stops
  rw [evaluate?_ofZoom_eq_atZoom?, hstops]
  rfl

theorem evaluate?_ofProperty {f : PropertyFunction} (hk : f.kind = .interval) (colors : Bool)
    (default : Value Float) {n : Number} (hn : feature.property? f.property = some (.number n)) :
    (ofProperty colors default f).evaluate? z feature =
      (Curve.ofNumericStops colors f.base .interval (Curve.numericStops f.stops)).atZoom? n.toFloat
        (functionDefault colors default f.fallback) := by
  rw [ofProperty, evaluate?, hn, hk]
  exact Curve.output?_number colors f.base .interval (Curve.numericStops f.stops) n _

section

variable {f : ZoomPropertyFunction} {colors : Bool} {default : Value Float}

/-- Between two levels a function of the zoom level and a property keeps the value of the lower. -/
theorem evaluate?_ofZoomAndProperty_interval (hk : f.kind = .interval) {place : Place}
    (hz : locate? z (f.stops.map Prod.fst) = some place) :
    (ofZoomAndProperty colors default f).evaluate? z feature =
      (f.stops.map fun level => levelValue colors default f level.2 feature)[place.lower]? := by
  have hwithin := Place.lower_lt (isWithin_of_locate? hz)
  rw [List.length_map] at hwithin
  have hlevel := List.getElem?_eq_getElem hwithin
  have hz' : locate? z (f.stops.map fun level => (Arith.ofDouble level.1 : Float)) =
      some place := hz
  rw [ofZoomAndProperty, evaluate?, hz', List.getElem?_map, hlevel, Option.map_some]
  cases place with
  | «at» k => exact levelOutput?_eq hlevel
  | between lower upper =>
    have hscale : (zoomScale f.kind (Arith.ofDouble f.base) : Scale Float) = .step := if_pos hk
    rw [hscale]
    exact between?_step (levelOutput?_eq hlevel)

theorem evaluate?_ofZoomAndProperty_nil (hnil : f.stops.map Prod.fst = []) :
    (ofZoomAndProperty colors default f).evaluate? z feature =
      some (functionDefault colors default f.fallback) := by
  have hnone : locate? z (f.stops.map fun level => (Arith.ofDouble level.1 : Float)) = none :=
    locate?_eq_none.2 hnil
  rw [ofZoomAndProperty, evaluate?, hnone]

end

/-- Between levels a function of the zoom level and a property steps from the value of one list of
stops to that of the next. -/
theorem exists_isStepFunction_ofZoomAndProperty {f : ZoomPropertyFunction}
    (hk : f.kind = .interval) (colors : Bool) (default : Value Float) (feature : Feature) :
    ∃ g, IsStepFunction (f.stops.map Prod.fst)
        (f.stops.map fun level => levelValue colors default f level.2 feature) g ∧
      ∀ z, (ofZoomAndProperty colors default f).evaluate? z feature = some (g z) := by
  have hsound := isSound_ofZoomAndProperty colors default f
  have htotal (z : Float) : (ofZoomAndProperty colors default f).evaluate? z feature =
      some ((ofZoomAndProperty colors default f).evaluate z feature) :=
    eq_some_getD Value.null (exists_evaluate? hsound z feature)
  refine ⟨fun z => (ofZoomAndProperty colors default f).evaluate z feature,
    isStepFunction_of_locate? (by simp) (fun hnil x y => ?_) (fun z place hz => ?_), htotal⟩
  · rw [evaluate, evaluate?_ofZoomAndProperty_nil hnil, evaluate,
      evaluate?_ofZoomAndProperty_nil hnil]
  · rw [← evaluate?_ofZoomAndProperty_interval hk hz, htotal]

/-- A function that steps is a step function of its stops: of the zoom level, of the number that a
feature has, or for each feature of the zoom level from one list of stops to the next. -/
theorem compile_interval {name : String} {raw : Json} {d : Declaration}
    (h : Declaration.ofJson name raw = .ok d) (hk : d.kind? = some .interval)
    (default : Option Json) :
    let colors := takesColors Float name default
    ∃ e : Evaluator Float, compile name (some raw) default = .ok e ∧
      (∀ f, d = .zoom f → ∃ g, IsStepFunction (f.stops.map Prod.fst) (outputsOf colors f.stops) g ∧
        ∀ z feature, e.evaluate? z feature = some (g z)) ∧
      (∀ f, d = .property f → (∀ stop ∈ f.stops, stop.1.isNumber = true) ∧
        let stops : List (Float × Json) := Curve.numericStops f.stops
        ∃ g, IsStepFunction (stops.map Prod.fst) (outputsOf colors stops) g ∧
          ∀ z feature n, feature.property? f.property = some (.number n) →
            e.evaluate? z feature = some (g n.toFloat)) ∧
      ∀ f, d = .zoomAndProperty f → ∀ feature, ∃ g, IsStepFunction (f.stops.map Prod.fst)
          (f.stops.map fun level =>
            levelValue colors (defaultOf colors default) f level.2 feature) g ∧
        ∀ z, e.evaluate? z feature = some (g z) := by
  intro colors
  refine ⟨_, Reading.map_eq_ok.2 ⟨d, h, rfl⟩, ?_, ?_, ?_⟩
  · rintro f rfl
    have hkind : f.kind = .interval := Option.some.inj hk
    obtain ⟨g, hg, hcurve⟩ :=
      Curve.exists_isStepFunction colors f.base f.stops (defaultOf colors default)
    refine ⟨g, hg, fun z feature => ?_⟩
    rw [← hcurve, ← hkind]
    exact evaluate?_ofZoom colors _ f
  · rintro f rfl
    have hkind : f.kind = .interval := Option.some.inj hk
    refine ⟨Declaration.isNumber_of_mem_function h (by rw [hkind]; rfl), ?_⟩
    obtain ⟨g, hg, hcurve⟩ := Curve.exists_isStepFunction colors f.base (Curve.numericStops f.stops)
      (functionDefault colors (defaultOf colors default) f.fallback)
    refine ⟨g, hg, fun z feature n hn => ?_⟩
    rw [← hcurve]
    exact evaluate?_ofProperty hkind colors _ hn
  · rintro f rfl feature
    exact exists_isStepFunction_ofZoomAndProperty (Option.some.inj hk) colors _ feature

/-! ### Steps by rank

The outputs have three types, so that the interpolator steps by itself. -/

def rankSteps : List (Json × Json) :=
  [(Json.natural 0, .string "none"), (Json.natural 5, Json.double 1.5),
    (Json.natural 9, .string "red")]

def ranksInSteps : Json :=
  .object [("property", .string "rank"), ("stops", Declaration.pairsToJson rankSteps),
    ("type", .string "interval")]

theorem compile_interval_ranks :
    ∃ e : Evaluator Float, compile "circle-color" (some ranksInSteps) none = .ok e ∧
      e.evaluate? 3 (pointWith "rank" (Json.double (-1.0))) = some (.string "none") ∧
      e.evaluate? 3 (pointWith "rank" (Json.natural 5)) = some (.number 1.5) ∧
      e.evaluate? 3 (pointWith "rank" (Json.double 8.5)) = some (.number 1.5) ∧
      e.evaluate? 3 (pointWith "rank" (Json.natural 9)) = some (.color ⟨1, 0, 0, 1⟩) := by
  have hd : Declaration.ofJson "circle-color" ranksInSteps = .ok (.property
      ⟨"rank", rankSteps, 1.0, .interval, none⟩) := rfl
  obtain ⟨e, he, -, hproperty, -⟩ := compile_interval hd rfl none
  obtain ⟨-, g, hg, hvalue⟩ := hproperty _ rfl
  have hinc : ((Curve.numericStops rankSteps : List (Float × Json)).map Prod.fst).Pairwise
      (· < ·) := by
    decide
  refine ⟨e, he, ?_, ?_, ?_, ?_⟩
  · rw [hvalue 3 _ _ rfl]
    exact congrArg some (hg.first 0 _ rfl rfl _ (by decide))
  · rw [hvalue 3 _ _ rfl]
    refine congrArg some (hg.step hinc 1 5 _ rfl rfl _ (by decide) ?_)
    rintro _ ⟨⟩
    decide
  · rw [hvalue 3 _ _ rfl]
    refine congrArg some (hg.step hinc 1 5 _ rfl rfl _ (by decide) ?_)
    rintro _ ⟨⟩
    decide
  · rw [hvalue 3 _ _ rfl]
    refine congrArg some (hg.step hinc 2 9 _ rfl rfl _ (by decide) ?_)
    rintro _ ⟨⟩

end Evaluator

end StyledMap
