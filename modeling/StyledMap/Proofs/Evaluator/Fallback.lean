import StyledMap.Proofs.Declaration.PlainStops
import StyledMap.Proofs.Evaluator.Dependence
import StyledMap.Proofs.Exact

/-! # Features without the number that a function reads

A function of a feature property that interpolates reads a number there. A feature may have no such
property, or something else under it, and then the function is to give its own default, or else that
of the property.

* `kind?`, `fallback?` and `levelsAt`: the kind of a declared function, its own default, and the
  lists of stops that count at a zoom level.
* `blendsAt?`: the position between two zoom levels at which an evaluator blends.
* `evaluate_of_levelsAt`: lists of stops that substitute the same value give this value.
* `evaluate_of_absent`: in exact arithmetic nothing comes between a feature without the property and
  the default. In doubles a zoom level can lie at a position that is not finite.
* `evaluate_of_not_number`: where blending the default with itself leaves it, a function gives it to a
  feature without the property, and to one with something else there unless a list of stops that
  counts has a constant for a curve.
-/

set_option autoImplicit false

namespace StyledMap

/-! ## Declared functions -/

namespace Declaration

open Reading

def kind? : Declaration → Option FunctionKind
  | constant _ => none
  | zoom f => some f.kind
  | property f => some f.kind
  | zoomAndProperty f => some f.kind

/-- The default of a function itself. -/
def fallback? : Declaration → Option Json
  | constant _ | zoom _ => none
  | property f => f.fallback
  | zoomAndProperty f => f.fallback

variable {α : Type} [Arith α]

/-- The indices of the zoom levels of a function that count at a zoom level: of both next to it where
they blend, or else of one. -/
def countingLevels (z : α) (f : ZoomPropertyFunction) : List Nat :=
  match locate? z (f.stops.map fun level => Arith.ofDouble level.1) with
  | none => []
  | some (.at k) => [k]
  | some (.between lower upper) => if f.kind = .interval then [lower] else [lower, upper]

/-- The lists of stops that count at a zoom level. -/
def levelsAt (z : α) : Declaration → List (List (Json × Json))
  | constant _ | zoom _ => []
  | property f => [f.stops]
  | zoomAndProperty f => (countingLevels z f).filterMap fun k => f.stops[k]?.map Prod.snd

theorem mem_levelsAt {z : α} {f : ZoomPropertyFunction} {k : Nat}
    {level : Float × List (Json × Json)} (hk : k ∈ countingLevels z f)
    (hs : f.stops[k]? = some level) : level.2 ∈ levelsAt z (.zoomAndProperty f) := by
  refine List.mem_filterMap.2 ⟨k, hk, ?_⟩
  rw [hs, Option.map_some]

/-- The default of a function is what its object has under `default`. -/
theorem fallback?_of_ofJson {name property : String} {value : Json} {d : Declaration}
    (h : ofJson name value = .ok d) (hp : d.property? = some property) :
    d.fallback? = value.member? "default" := by
  cases value with
  | object members =>
    by_cases hf : isFunctionObject members = true
    · obtain ⟨base, kind, property, stops, -, -, -, -, hd⟩ :=
        ofMembers_eq_ok.1 ((ofJson_function hf).1 h)
      obtain ⟨-, f, rfl⟩ | ⟨name, -, ⟨stops, kind', rfl⟩ | ⟨-, outer, rfl⟩⟩ := ofParts_eq_ok hd
      · simp [property?] at hp
      · rfl
      · rfl
    · rw [ofJson, if_neg hf] at h
      obtain rfl := Except.ok.inj h
      simp [property?] at hp
  | _ =>
    obtain rfl := Except.ok.inj h
    simp [property?] at hp

end Declaration

/-! ## Blending a value with itself -/

section

open Exact

variable {K : Type} [Field K] [LinearOrder K] [FloorRing K] [Powers K]

theorem Color.mix_self (x t : K) : mix x t x = x := by
  have h : x + t * (x - x) = x := by rw [sub_self, mul_zero, add_zero]
  exact h

/-- In exact arithmetic a value stays itself on the way to itself. In doubles it does at a position
that is finite. -/
theorem Value.blend_self (v : Value K) (t : K) : v.blend t v = v := by
  cases v with
  | number x => exact congrArg number (Color.mix_self x t)
  | color c => simp only [blend, Color.blend, Color.mix_self]
  | _ => rfl

end

namespace Evaluator

open Declaration Reading

variable {α : Type} [Arith α]

/-- The position between two zoom levels at which an evaluator blends their values. -/
def blendsAt? (e : Evaluator α) (z : α) : Option α :=
  match e with
  | zoomAndProperty _ zooms _ scale _ =>
    match scale, locate? z zooms with
    | .step, _ => none
    | scale, some (.between lower upper) => do
      return scale.position (← zooms[lower]?) z (← zooms[upper]?)
    | _, _ => none
  | _ => none

variable {scale : Scale α} {zooms : List α} {lower upper : Nat} {z a b : α} {v : Value α}

theorem zoomScale_ne_step {kind : FunctionKind} {base : α} (h : zoomScale kind base ≠ .step) :
    kind ≠ .interval := by
  rintro rfl
  exact h rfl

theorem blendsAt?_between {name : String} {curves : List (Curve α)} {default : Value α}
    (hs : scale ≠ .step) (hp : locate? z zooms = some (.between lower upper))
    (ha : zooms[lower]? = some a) (hb : zooms[upper]? = some b) :
    (zoomAndProperty name zooms curves scale default).blendsAt? z =
      some (scale.position a z b) := by
  cases scale with
  | step => exact absurd rfl hs
  | linear =>
    simp only [blendsAt?, hp, ha, hb]
    rfl
  | exponential base =>
    simp only [blendsAt?, hp, ha, hb]
    rfl

/-! ## Values -/

variable {colors : Bool} {default : Value α} {d : Declaration} {kind : FunctionKind}
  {property : String} {feature : Feature}

/-- Zoom levels that all have one value give this value, if it stays itself where they blend. -/
theorem evaluate_ofZoomAndProperty {f : ZoomPropertyFunction}
    (hl : ∀ stops ∈ levelsAt z (.zoomAndProperty f),
      levelValue colors default f stops feature = v)
    (hd : levelsAt z (.zoomAndProperty f) = [] → functionDefault colors default f.fallback = v)
    (ht : ∀ t ∈ (ofZoomAndProperty colors default f).blendsAt? z, v.blend t v = v) :
    (ofZoomAndProperty colors default f).evaluate z feature = v := by
  let zooms : List α := f.stops.map fun level => Arith.ofDouble level.1
  have hlevel {k : Nat} (hk : k < zooms.length) : ∃ level, f.stops[k]? = some level ∧
      zooms[k]? = some (Arith.ofDouble level.1) := by
    have hk' : k < f.stops.length := by simpa [zooms] using hk
    have hs := List.getElem?_eq_getElem hk'
    exact ⟨_, hs, by rw [List.getElem?_map, hs, Option.map_some]⟩
  have houtput {k : Nat} {level : Float × List (Json × Json)} (hk : k ∈ countingLevels z f)
      (hs : f.stops[k]? = some level) := (levelOutput?_eq hs).trans
    (congrArg some (hl level.2 (mem_levelsAt hk hs)))
  suffices h : (ofZoomAndProperty colors default f).evaluate? z feature = some v by
    rw [evaluate, h, Option.getD_some]
  simp only [ofZoomAndProperty, evaluate?]
  cases hp : locate? z zooms with
  | none =>
    have hnone : levelsAt z (.zoomAndProperty f) = [] := by
      rw [levelsAt, countingLevels, hp, List.filterMap_nil]
    exact congrArg some (hd hnone)
  | some place =>
    have hw := isWithin_of_locate? hp
    cases place with
    | «at» k =>
      obtain ⟨level, hs, -⟩ := hlevel hw
      exact houtput (by simp [countingLevels, zooms, hp]) hs
    | between lower upper =>
      obtain ⟨below, hbelow, ha⟩ := hlevel hw.1
      obtain ⟨above, habove, hb⟩ := hlevel hw.2
      refine between?_same (houtput ?_ hbelow) (fun hs => houtput ?_ habove) ha hb (fun hs => ?_)
      · rw [countingLevels, hp]
        simp only
        split <;> simp
      · rw [countingLevels, hp]
        simp only
        rw [if_neg (zoomScale_ne_step hs)]
        simp
      · exact ht _ (blendsAt?_between hs hp ha hb)

/-- Lists of stops that count at a zoom level and substitute one value for what is no number give
this value. -/
theorem evaluate_of_levelsAt (hp : d.property? = some property) (hk : d.kind? = some kind)
    (hn : kind.isNumeric = true) (hv : ∀ w ∈ feature.property? property, w.isNumber = false)
    (hl : ∀ stops ∈ d.levelsAt z, Curve.substitute colors
      (functionDefault colors default d.fallback?) stops (feature.property? property) = v)
    (hd : d.levelsAt z = [] → functionDefault colors default d.fallback? = v)
    (ht : ∀ t ∈ (ofDeclaration colors default d).blendsAt? z, v.blend t v = v) :
    (ofDeclaration colors default d).evaluate z feature = v := by
  cases d with
  | constant value => simp [Declaration.property?] at hp
  | zoom f => simp [Declaration.property?] at hp
  | property f =>
    obtain rfl := Option.some.inj hp
    obtain rfl := Option.some.inj hk
    exact (Curve.lookup_of_not_number hn hv).trans (hl f.stops (List.mem_singleton.2 rfl))
  | zoomAndProperty f =>
    obtain rfl := Option.some.inj hp
    obtain rfl := Option.some.inj hk
    refine evaluate_ofZoomAndProperty (fun stops hs => ?_) hd ht
    rw [levelValue, Curve.lookup_of_not_number hn hv]
    exact hl stops hs

section

variable (hp : d.property? = some property) (hk : d.kind? = some kind)
  (hn : kind.isNumeric = true) (hv : ∀ w ∈ feature.property? property, w.isNumber = false)

include hp hk hn hv

theorem evaluate_eq_default
    (hnone : feature.property? property = none ∨
      ∀ stops ∈ d.levelsAt z, Curve.onlyOutput? stops = none)
    (ht : ∀ t ∈ (ofDeclaration colors default d).blendsAt? z,
      (functionDefault colors default d.fallback?).blend t
        (functionDefault colors default d.fallback?) = functionDefault colors default d.fallback?) :
    (ofDeclaration colors default d).evaluate z feature =
      functionDefault colors default d.fallback? := by
  refine evaluate_of_levelsAt hp hk hn hv (fun stops hs => ?_) (fun _ => rfl) ht
  exact Curve.substitute_eq_default (hnone.imp_right fun hnone => hnone stops hs)

theorem evaluate_eq_output {output : Json} (hi : (feature.property? property).isSome = true)
    (hne : d.levelsAt z ≠ []) (honly : ∀ stops ∈ d.levelsAt z, Curve.onlyOutput? stops = some output)
    (ht : ∀ t ∈ (ofDeclaration colors default d).blendsAt? z,
      (Value.ofJson colors output).blend t (Value.ofJson colors output) =
        Value.ofJson colors output) :
    (ofDeclaration colors default d).evaluate z feature = Value.ofJson colors output := by
  refine evaluate_of_levelsAt hp hk hn hv (fun stops hs => ?_) (fun hnil => absurd hnil hne) ht
  exact Curve.substitute_eq_output hi (honly stops hs)

end

section

open Exact

variable {K : Type} [Field K] [LinearOrder K] [FloorRing K] [Powers K]

/-- In exact arithmetic a feature without the property gets the default at every zoom level, also
where levels blend. -/
theorem evaluate_of_absent (hp : d.property? = some property) (hk : d.kind? = some kind)
    (hn : kind.isNumeric = true) (hv : feature.property? property = none) (colors : Bool)
    (default : Value K) (z : K) :
    (ofDeclaration colors default d).evaluate z feature =
      functionDefault colors default d.fallback? :=
  evaluate_eq_default hp hk hn (by simp [hv]) (.inl hv) fun t _ => Value.blend_self _ t

end

theorem functionDefault_eq (own default : Option Json) :
    functionDefault colors (defaultOf colors default : Value α) own =
      defaultOf colors (own.or default) := by
  cases own <;> rfl

/-- A function of a feature property that interpolates gives its own default, or else that of the
property, to every feature without the property, and to every feature with something there that is
no number if each list of stops that counts has none or several numeric inputs. Where each has one
numeric input, with one output for all, every feature with the property gets this output. All of
this, the default of a feature without the property too, needs a value that stays itself when it is
blended with itself where the zoom level lies: in doubles this can be at `inf / inf`. -/
theorem evaluate_of_not_number {name : String} {value : Json} (h : ofJson name value = .ok d)
    (hp : d.property? = some property) (hk : d.kind? = some kind) (hn : kind.isNumeric = true)
    (default : Option Json) :
    let colors := takesColors α name default
    let fallback : Value α := defaultOf colors ((value.member? "default").or default)
    ∃ e : Evaluator α, compile name (some value) default = .ok e ∧
      ∀ (z : α) (feature : Feature), (∀ w ∈ feature.property? property, w.isNumber = false) →
        ((feature.property? property = none ∨
            ∀ stops ∈ d.levelsAt z, Curve.onlyOutput? stops = none) →
          (∀ t ∈ e.blendsAt? z, fallback.blend t fallback = fallback) →
          e.evaluate z feature = fallback) ∧
        ∀ output, (feature.property? property).isSome = true → d.levelsAt z ≠ [] →
          (∀ stops ∈ d.levelsAt z, Curve.onlyOutput? stops = some output) →
          (∀ t ∈ e.blendsAt? z, (Value.ofJson colors output).blend t (Value.ofJson colors output) =
            Value.ofJson colors output) →
          e.evaluate z feature = Value.ofJson colors output := by
  intro colors fallback
  have hfallback : functionDefault colors (defaultOf colors default) d.fallback? = fallback := by
    rw [fallback?_of_ofJson h hp]
    exact functionDefault_eq _ _
  refine ⟨_, map_eq_ok.2 ⟨_, h, rfl⟩, fun z feature hv => ⟨fun hnone ht => ?_, ?_⟩⟩
  · rw [← hfallback] at ht ⊢
    exact evaluate_eq_default hp hk hn hv hnone ht
  · intro output hi hne honly ht
    exact evaluate_eq_output hp hk hn hv hi hne honly ht

/-! ## Two functions of the height -/

/-- Levels with several numeric inputs each. -/
def heights : Json :=
  .object (("default", Json.natural 3) :: twoLevels "height" (ramp 10) (ramp 110))

def tall : Feature :=
  pointWith "height" (.string "tall")

/-- Between two levels features of a height that is no number, and of none, get the default. -/
theorem evaluate_of_not_number_heights :
    ∃ e : Evaluator Float, compile "fill-extrusion-height" (some heights) none = .ok e ∧
      e.evaluate 5 tall = .number 3 ∧ e.evaluate 5 (Feature.blank .point) = .number 3 := by
  have hd : ofJson "fill-extrusion-height" heights = .ok (.zoomAndProperty
      ⟨"height", [(0, ramp 10), (10, ramp 110)], 1.0, .exponential, some (Json.natural 3)⟩) := rfl
  obtain ⟨e, he, h⟩ := evaluate_of_not_number (α := Float) hd rfl rfl rfl none
  obtain rfl := Except.ok.inj he
  refine ⟨_, he, ?_, ?_⟩
  · refine (h 5 tall ?_).1 (.inr ?_) ?_
    · rintro _ ⟨⟩
      rfl
    · decide
    · rintro _ ⟨⟩
      rfl
  · refine (h 5 (Feature.blank .point) ?_).1 (.inl rfl) ?_
    · rintro _ ⟨⟩
    · rintro _ ⟨⟩
      rfl

/-- A single stop. -/
def oneHeight : Json :=
  .object [("default", Json.natural 7), ("property", .string "height"),
    ("stops", .array [.array [Json.natural 0, Json.natural 5]])]

/-- With a single stop a feature of a height that is no number gets the output of this stop. -/
theorem evaluate_ne_default_tall :
    ∃ e : Evaluator Float, compile "fill-extrusion-height" (some oneHeight) none = .ok e ∧
      e.evaluate 0 tall = .number 5 ∧
      e.evaluate 0 tall ≠ defaultOf (takesColors Float "fill-extrusion-height" none)
        ((oneHeight.member? "default").or none) := by
  refine ⟨_, rfl, rfl, fun h => ?_⟩
  have hbits : (5 : Float).toBits = (7 : Float).toBits := congrArg Float.toBits (Value.number.inj h)
  exact absurd hbits (by decide)

end Evaluator

end StyledMap
