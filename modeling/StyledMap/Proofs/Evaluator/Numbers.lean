import StyledMap.Proofs.Evaluator.Steps
import StyledMap.Proofs.Interpolator.Doubles

/-! # Functions that give no number

A function that interpolates numbers of moderate size gives a number, unless a position that it mixes
at is lost: that of the zoom level or the feature value among the stops, or in a function of both that
of the zoom level among the levels as well. Nothing checks for that. A position is lost where the
powers of the base leave the range of doubles or are all one, and with the base one where the stops
are too far apart.

* `Declaration.pos_of_ofJson`: the base of a declared function is positive.
* `Value.IsNumberUnless`: what is said of a value.
* `Curve.IsOutput.isNumberUnless` and `isNumberUnless_blend`: it is true of the output of a list of
  stops, and of the blend of two.
* `Declaration.IsModerate`, `LosesAt` and `HasStopsAt`: what is asked of a declared function, where it
  loses a position, and where it has an output at all.
* `Evaluator.compile_exponential`: a function gives no number exactly where it loses a position.
-/

set_option autoImplicit false

namespace StyledMap

open Double DoublePowers

/-! ## Bases -/

namespace Declaration

open Reading

def base? : Declaration → Option Float
  | constant _ => none
  | zoom f => some f.base
  | property f => some f.base
  | zoomAndProperty f => some f.base

theorem base?_of_ofParts {base : Float} {kind : Option FunctionKind} {property : Option String}
    {stops : List (Json × Json)} {members : Table Json} {d : Declaration}
    (h : ofParts base kind property stops members = .ok d) : d.base? = some base := by
  unfold ofParts at h
  split at h
  · unfold ofZoomStops at h
    simp only at h
    split at h
    · obtain ⟨outer, -, hd⟩ := bind_eq_ok.1 h
      obtain rfl := pure_eq_ok.1 hd
      rfl
    · simp at h
  · split at h
    · obtain rfl := Except.ok.inj h
      rfl
    · split at h
      · obtain ⟨kind, rfl⟩ | ⟨outer, rfl⟩ := ofPropertyStops_eq_ok h <;> rfl
      · simp at h

theorem pos_of_baseOf {members : Table Json} {base : Float} (h : baseOf members = .ok base)
    (hbase : base.isFinite = true) : 0 < base := by
  unfold baseOf at h
  split at h
  · obtain rfl := Except.ok.inj h
    decide
  · split at h
    · simp at h
    · split at h
      · simp at h
      · next hnot =>
        obtain rfl := Except.ok.inj h
        exact (not_le_iff (isNaN_of_isFinite hbase) (by decide)).1 hnot

/-- The base of a function is read from its object, where it has to be positive. -/
theorem pos_of_ofJson {name : String} {value : Json} {d : Declaration} {base : Float}
    (h : ofJson name value = .ok d) (hd : d.base? = some base) (hbase : base.isFinite = true) :
    0 < base := by
  cases value with
  | object members =>
    by_cases hf : isFunctionObject members = true
    · obtain ⟨read, _, _, _, hread, -, -, -, hparts⟩ :=
        ofMembers_eq_ok.1 ((ofJson_function hf).1 h)
      rw [base?_of_ofParts hparts] at hd
      obtain rfl := Option.some.inj hd
      exact pos_of_baseOf hread hbase
    · rw [ofJson, if_neg hf] at h
      obtain rfl := Except.ok.inj h
      simp [base?] at hd
  | _ =>
    obtain rfl := Except.ok.inj h
    simp [base?] at hd

end Declaration

/-! ## Blends -/

namespace Value

/-- A value is finite if it is a number. -/
def IsFinite (v : Value Float) : Prop :=
  ∀ y, v = number y → y.isFinite = true

/-- A value is a number that no finite number is too far from. -/
def IsNear (v : Value Float) : Prop :=
  ∃ y, v = number y ∧ IsBounded y (2 ^ 960)

/-- A value is no number only where something is lost, and where there are outputs it is so just
then. -/
structure IsNumberUnless (v : Value Float) (lost hasOutputs : Prop) : Prop where
  lost_of_isNaN : ∀ y, v = number y → y.isNaN = true → lost
  exists_number : hasOutputs → ∃ y, v = number y ∧ (y.isNaN = true ↔ lost)

theorem IsNumberUnless.congr {v : Value Float} {lost lost' hasOutputs hasOutputs' : Prop}
    (h : v.IsNumberUnless lost hasOutputs) (hlost : lost ↔ lost')
    (houtputs : hasOutputs' → hasOutputs) : v.IsNumberUnless lost' hasOutputs' where
  lost_of_isNaN y hy hnan := hlost.1 (h.lost_of_isNaN y hy hnan)
  exists_number h' := by
    obtain ⟨y, hy, hiff⟩ := h.exists_number (houtputs h')
    exact ⟨y, hy, hiff.trans hlost⟩

theorem IsNear.isFinite {v : Value Float} (h : v.IsNear) : v.IsFinite := by
  obtain ⟨y, rfl, hy⟩ := h
  rintro _ ⟨⟩
  exact hy.isFinite

end Value

section

variable [Powers Float]

theorem Value.isNaN_blend_eq_false {v w : Value Float} {t y : Float} (ht : IsPart t) (hv : v.IsFinite)
    (hw : w.IsFinite) (h : v = w ∨ v.IsNear ∨ w.IsNear) (hy : v.blend t w = .number y) :
    y.isNaN = false := by
  cases v with
  | number x =>
    cases w with
    | number z =>
      obtain rfl := Value.number.inj hy
      refine Color.isNaN_mix_eq_false ht (hv x rfl) (hw z rfl) ?_
      obtain h | ⟨_, h, hb⟩ | ⟨_, h, hb⟩ := h
      · exact .inl (Value.number.inj h)
      · obtain rfl := Value.number.inj h
        exact .inr (.inl hb)
      · obtain rfl := Value.number.inj h
        exact .inr (.inr hb)
    | _ =>
      obtain rfl := Value.number.inj hy
      exact isNaN_of_isFinite (hv x rfl)
  | color c => cases w <;> simp [blend] at hy
  | _ => simp [blend] at hy

namespace Curve.IsOutput

open Interpolator

variable {scale : Scale Float} {stops stops' : List (Float × Json)} {default v w : Value Float}
  {x t : Float}

theorem eq_default_or_isNear (h : IsOutput scale stops default x v)
    (hlost : ¬ IsLost scale (stops.map Prod.fst) x) : v = default ∨ v.IsNear := by
  have hbound : (3 * 10 ^ 6 : ℚ) ≤ 2 ^ 960 :=
    le_trans (by norm_num) (pow_le_pow_right₀ one_le_two (show 22 ≤ 960 by decide))
  cases h with
  | default h => exact .inl rfl
  | lost y h hy => exact absurd h hlost
  | kept y h hy => exact .inr ⟨y, rfl, hy.mono hbound⟩

theorem isNumberUnless (h : IsOutput scale stops default x v) (hd : default.IsFinite) :
    v.IsNumberUnless (IsLost scale (stops.map Prod.fst) x) (stops ≠ []) where
  lost_of_isNaN y hy hnan := by
    cases h with
    | default h =>
      rw [isNaN_of_isFinite (hd y hy)] at hnan
      exact Bool.noConfusion hnan
    | lost _ h _ => exact h
    | kept _ _ hbounded =>
      obtain rfl := Value.number.inj hy
      rw [isNaN_of_isFinite hbounded.isFinite] at hnan
      exact Bool.noConfusion hnan
  exists_number hne := by
    cases h with
    | default h => exact absurd h hne
    | lost y h hy => exact ⟨y, rfl, iff_of_true hy h⟩
    | kept y h hy =>
      refine ⟨y, rfl, iff_of_false (fun hnan => ?_) h⟩
      rw [isNaN_of_isFinite hy.isFinite] at hnan
      exact Bool.noConfusion hnan

/-- Two outputs of one function blend to a number, unless one of them or the position is none. -/
theorem isNumberUnless_blend {lost : Prop} (hv : IsOutput scale stops default x v)
    (hw : IsOutput scale stops' default x w) (hd : default.IsFinite)
    (hnan : lost → t.isNaN = true) (hpart : ¬ lost → IsPart t) :
    (v.blend t w).IsNumberUnless (lost ∨ IsLost scale (stops.map Prod.fst) x ∨
      IsLost scale (stops'.map Prod.fst) x) (stops ≠ [] ∧ stops' ≠ []) := by
  have hlost (y : Float) (hy : v.blend t w = .number y) (hy' : y.isNaN = true) :
      lost ∨ IsLost scale (stops.map Prod.fst) x ∨ IsLost scale (stops'.map Prod.fst) x := by
    by_contra hnone
    obtain ⟨hposition, houtputs⟩ := not_or.1 hnone
    obtain ⟨hlow, hhigh⟩ := not_or.1 houtputs
    have hlow := hv.eq_default_or_isNear hlow
    have hhigh := hw.eq_default_or_isNear hhigh
    have hnumber : y.isNaN = false := by
      refine Value.isNaN_blend_eq_false (hpart hposition) ?_ ?_ ?_ hy
      · exact hlow.elim (fun h => h ▸ hd) Value.IsNear.isFinite
      · exact hhigh.elim (fun h => h ▸ hd) Value.IsNear.isFinite
      · obtain rfl | hlow := hlow
        · exact hhigh.imp Eq.symm .inr
        · exact .inr (.inl hlow)
    rw [hnumber] at hy'
    exact Bool.noConfusion hy'
  refine ⟨hlost, fun hne => ?_⟩
  obtain ⟨a, rfl, ha⟩ := (hv.isNumberUnless hd).exists_number hne.1
  obtain ⟨b, rfl, hb⟩ := (hw.isNumberUnless hd).exists_number hne.2
  refine ⟨_, rfl, fun h => hlost _ rfl h, fun h => Color.isNaN_mix ?_⟩
  obtain hposition | hlow | hhigh := h
  · exact .inr (.inl (hnan hposition))
  · exact .inl (ha.2 hlow)
  · exact .inr (.inr (hb.2 hhigh))

end Curve.IsOutput

/-! ## Declared functions -/

namespace Declaration

open Interpolator

/-- All stops of a function have increasing finite inputs, and those that count numbers of at most a
million for outputs. -/
def IsModerate : Declaration → Prop
  | constant _ => True
  | zoom f => Interpolator.IsModerate f.stops
  | property f => Interpolator.IsModerate (Curve.numericStops f.stops)
  | zoomAndProperty f => Increasing f.stops ∧ ∀ level ∈ f.stops, level.1.isFinite = true ∧
      Interpolator.IsModerate (Curve.numericStops level.2)

instance : (d : Declaration) → Decidable d.IsModerate
  | constant _ => inferInstanceAs (Decidable True)
  | zoom f => inferInstanceAs (Decidable (Interpolator.IsModerate f.stops))
  | property f =>
    inferInstanceAs (Decidable (Interpolator.IsModerate (Curve.numericStops f.stops)))
  | zoomAndProperty f =>
    have : Decidable (Increasing f.stops) :=
      inferInstanceAs (Decidable (f.stops.Pairwise fun s t => s.1 < t.1))
    inferInstanceAs (Decidable (Increasing f.stops ∧ ∀ level ∈ f.stops,
      level.1.isFinite = true ∧ Interpolator.IsModerate (Curve.numericStops level.2)))

/-- A function loses the position of a zoom level, or that of a feature value among stops that
count. -/
def LosesAt (z x : Float) : Declaration → Prop
  | constant _ => False
  | zoom f => IsLost (Scale.ofBase f.base) (f.stops.map Prod.fst) z
  | property f => IsLost (Scale.ofBase f.base) ((Curve.numericStops f.stops).map Prod.fst) x
  | zoomAndProperty f => IsLost (Scale.ofBase f.base) (f.stops.map Prod.fst) z ∨
      ∃ stops ∈ levelsAt z (.zoomAndProperty f),
        IsLost (Scale.ofBase f.base) ((Curve.numericStops stops).map Prod.fst) x

/-- Every list of stops that counts at a zoom level has a numeric input. -/
def HasStopsAt (z : Float) : Declaration → Prop
  | constant _ => False
  | zoom f => f.stops ≠ []
  | property f => (Curve.numericStops f.stops : List (Float × Json)) ≠ []
  | zoomAndProperty f => f.stops ≠ [] ∧ ∀ stops ∈ levelsAt z (.zoomAndProperty f),
      (Curve.numericStops stops : List (Float × Json)) ≠ []

/-! ### Levels that count -/

section

variable {z : Float} {f : ZoomPropertyFunction} {k : ℕ}

theorem levelsAt_at {level : Float × List (Json × Json)}
    (hp : locate? z (f.stops.map Prod.fst) = some (.at k)) (hs : f.stops[k]? = some level) :
    levelsAt z (.zoomAndProperty f) = [level.2] := by
  have hp' : locate? z (f.stops.map fun level => (Arith.ofDouble level.1 : Float)) =
      some (.at k) := hp
  simp [levelsAt, countingLevels, hp', hs]

theorem levelsAt_between {low high : Float × List (Json × Json)} (hk : f.kind = .exponential)
    (hp : locate? z (f.stops.map Prod.fst) = some (.between k (k + 1)))
    (hl : f.stops[k]? = some low) (hh : f.stops[k + 1]? = some high) :
    levelsAt z (.zoomAndProperty f) = [low.2, high.2] := by
  have hp' : locate? z (f.stops.map fun level => (Arith.ofDouble level.1 : Float)) =
      some (.between k (k + 1)) := hp
  simp [levelsAt, countingLevels, hp', hl, hh, hk]

end

end Declaration

/-! ## Evaluators -/

namespace Evaluator

open Declaration Interpolator

theorem isFinite_functionDefault {own default : Option Json} (colors : Bool)
    (h : ∀ n, own = some (.number n) ∨ default = some (.number n) → n.toFloat.isFinite = true) :
    (functionDefault colors (defaultOf colors default) own : Value Float).IsFinite := by
  rw [functionDefault_eq]
  intro y hy
  cases hor : own.or default with
  | none => simp [hor, defaultOf] at hy
  | some j =>
    have hj : own = some j ∨ default = some j := by
      cases own with
      | none => exact .inr hor
      | some _ => exact .inl hor
    rw [hor, defaultOf] at hy
    cases j with
    | number n =>
      obtain rfl := Value.number.inj hy
      exact h n hj
    | string s =>
      rw [Value.ofJson, Value.ofString] at hy
      split at hy
      · split at hy <;> simp at hy
      · simp at hy
    | _ => simp [Value.ofJson] at hy

variable [Lawful] {z : Float} {feature : Feature} {n : Number}

theorem isOutput_levelValue {f : ZoomPropertyFunction} {stops : List (Json × Json)}
    (colors : Bool) (default : Value Float) (hk : f.kind = .exponential)
    (hm : Interpolator.IsModerate (Curve.numericStops stops)) (hbase : f.base.isFinite = true)
    (hpos : 0 < f.base)
    (hv : feature.property? f.property = some (.number n)) (hn : n.toFloat.isFinite = true) :
    Curve.IsOutput (Scale.ofBase f.base) (Curve.numericStops stops)
      (functionDefault colors default f.fallback) n.toFloat
      (levelValue colors default f stops feature) := by
  obtain ⟨v, hvalue, hout⟩ := Curve.exists_isOutput hm hbase hpos hn colors
    (functionDefault colors default f.fallback)
  have houtput := (Curve.output?_number colors f.base .exponential (Curve.numericStops stops) n
    (functionDefault colors default f.fallback)).trans hvalue
  have hlevel : levelValue colors default f stops feature = v := by
    rw [levelValue, hk, hv]
    exact congrArg (Option.getD · Value.null) houtput
  rw [hlevel]
  exact hout

theorem isNumberUnless_ofZoomAndProperty {f : ZoomPropertyFunction} {colors : Bool}
    {default : Value Float} (hk : f.kind = .exponential)
    (hm : Declaration.IsModerate (.zoomAndProperty f)) (hbase : f.base.isFinite = true)
    (hpos : 0 < f.base) (hz : z.isFinite = true)
    (hv : feature.property? f.property = some (.number n)) (hn : n.toFloat.isFinite = true)
    (hd : (functionDefault colors default f.fallback).IsFinite) :
    ((ofZoomAndProperty colors default f).evaluate z feature).IsNumberUnless
      (LosesAt z n.toFloat (.zoomAndProperty f)) (HasStopsAt z (.zoomAndProperty f)) := by
  obtain ⟨hincreasing, hlevels⟩ := hm
  have hinc : (f.stops.map Prod.fst).Pairwise (· < ·) := List.pairwise_map.2 hincreasing
  have hfinite : ∀ p ∈ f.stops.map Prod.fst, p.isFinite = true := by
    intro p hp
    obtain ⟨level, hs, rfl⟩ := List.mem_map.1 hp
    exact (hlevels level hs).1
  have hout {k : ℕ} {level : Float × List (Json × Json)} (hs : f.stops[k]? = some level) :=
    isOutput_levelValue colors default hk (hlevels level (List.mem_of_getElem? hs)).2 hbase hpos hv hn
  have hlevel {k : ℕ} {level : Float × List (Json × Json)} (hs : f.stops[k]? = some level) :
      _ = some (levelValue colors default f level.2 feature) := levelOutput?_eq hs
  have hzooms : (f.stops.map fun level => (Arith.ofDouble level.1 : Float)) =
      f.stops.map Prod.fst := rfl
  rw [evaluate, ofZoomAndProperty, evaluate?, hzooms]
  cases hp : locate? z (f.stops.map Prod.fst) with
  | none =>
    have hnil := List.map_eq_nil_iff.1 (locate?_eq_none.1 hp)
    refine ⟨fun y hy hnan => ?_, fun h => absurd hnil h.1⟩
    rw [isNaN_of_isFinite (hd y hy)] at hnan
    exact Bool.noConfusion hnan
  | some place =>
    have hwithin := isWithin_of_locate? hp
    rw [List.length_map] at hwithin
    cases place with
    | «at» k =>
      have hs := List.getElem?_eq_getElem (show k < f.stops.length from hwithin)
      have hcounts := levelsAt_at hp hs
      simp only
      rw [hlevel hs]
      refine ((hout hs).isNumberUnless hd).congr ?_ fun h => h.2 _ (by simp [hcounts])
      simp [LosesAt, hcounts, not_isLost_of_at hinc hp]
    | between lower upper =>
      obtain ⟨rfl, -⟩ := locate?_between hp
      have hl := List.getElem?_eq_getElem (show lower < f.stops.length from hwithin.1)
      have hh := List.getElem?_eq_getElem (show lower + 1 < f.stops.length from hwithin.2)
      have hcounts := levelsAt_between hk hp hl hh
      have hscale : (zoomScale f.kind (Arith.ofDouble f.base) : Scale Float) =
          Scale.ofBase f.base := by
        rw [hk]
        rfl
      obtain ⟨hnan, hpart⟩ := position_between hbase hpos hinc hfinite (isNaN_of_isFinite hz) hp
        (getElem?_positions hl) (getElem?_positions hh)
      simp only
      rw [hscale, between?_blend (Scale.ofBase_ne_step f.base) (hlevel hl) (hlevel hh)
        (getElem?_positions hl) (getElem?_positions hh)]
      refine ((hout hl).isNumberUnless_blend (hout hh) hd hnan hpart).congr ?_ fun h => ?_
      · simp [LosesAt, hcounts]
      · exact ⟨h.2 _ (by simp [hcounts]), h.2 _ (by simp [hcounts])⟩

theorem isNumberUnless_ofZoom {f : ZoomFunction} (hk : f.kind = .exponential)
    (hm : Declaration.IsModerate (.zoom f)) (hbase : f.base.isFinite = true) (hpos : 0 < f.base)
    (hz : z.isFinite = true) (colors : Bool) {default : Value Float} (hd : default.IsFinite)
    (x : Float) :
    ((ofZoom colors default f).evaluate z feature).IsNumberUnless (LosesAt z x (.zoom f))
      (HasStopsAt z (.zoom f)) := by
  obtain ⟨v, hvalue, hout⟩ := Curve.exists_isOutput hm hbase hpos hz colors default
  have hstops : (f.stops.map fun stop => ((Arith.ofDouble stop.1 : Float), stop.2)) = f.stops :=
    List.map_id f.stops
  have heval : (ofZoom colors default f).evaluate z feature = v := by
    rw [evaluate, evaluate?_ofZoom_eq_atZoom?, hstops, hk]
    exact congrArg (Option.getD · Value.null) hvalue
  rw [heval]
  exact hout.isNumberUnless hd

theorem isNumberUnless_ofProperty {f : PropertyFunction} (hk : f.kind = .exponential)
    (hm : Declaration.IsModerate (.property f)) (hbase : f.base.isFinite = true)
    (hpos : 0 < f.base) (hv : feature.property? f.property = some (.number n))
    (hn : n.toFloat.isFinite = true) {colors : Bool} {default : Value Float}
    (hd : (functionDefault colors default f.fallback).IsFinite) :
    ((ofProperty colors default f).evaluate z feature).IsNumberUnless
      (LosesAt z n.toFloat (.property f)) (HasStopsAt z (.property f)) := by
  obtain ⟨v, hvalue, hout⟩ := Curve.exists_isOutput hm hbase hpos hn colors
    (functionDefault colors default f.fallback)
  have heval : (ofProperty colors default f).evaluate z feature = v := by
    rw [evaluate, ofProperty, evaluate?, hv, hk]
    exact congrArg (Option.getD · Value.null) ((Curve.output?_number _ _ _ _ n _).trans hvalue)
  rw [heval]
  exact hout.isNumberUnless hd

/-- A function that interpolates numbers of at most a million between increasing finite inputs gives
no number exactly where it loses the position of the zoom level or of the feature value. -/
theorem compile_exponential {name : String} {value : Json} {d : Declaration}
    (h : Declaration.ofJson name value = .ok d) (hk : d.kind? = some .exponential)
    (hm : d.IsModerate) (hbase : ∀ base, d.base? = some base → base.isFinite = true)
    (default : Option Json) (hd : ∀ n, value.member? "default" = some (.number n) ∨
      default = some (.number n) → n.toFloat.isFinite = true) :
    ∃ e : Evaluator Float, compile name (some value) default = .ok e ∧
      ∀ (z : Float) (feature : Feature) (n : Number), z.isFinite = true →
        n.toFloat.isFinite = true →
        (∀ property, d.property? = some property →
          feature.property? property = some (.number n)) →
        (e.evaluate z feature).IsNumberUnless (d.LosesAt z n.toFloat) (d.HasStopsAt z) := by
  refine ⟨_, Reading.map_eq_ok.2 ⟨d, h, rfl⟩, fun z feature n hz hn hv => ?_⟩
  have hdefault {property : String} (hp : d.property? = some property) :
      (functionDefault (takesColors Float name default)
        (defaultOf (takesColors Float name default) default : Value Float) d.fallback?).IsFinite := by
    rw [fallback?_of_ofJson h hp]
    exact isFinite_functionDefault _ hd
  have hpos {base : Float} (hb : d.base? = some base) : 0 < base :=
    pos_of_ofJson h hb (hbase base hb)
  cases d with
  | constant value => simp [Declaration.kind?] at hk
  | zoom f =>
    have hdefault : (functionDefault (takesColors Float name default)
        (defaultOf (takesColors Float name default) default : Value Float) none).IsFinite :=
      isFinite_functionDefault _ fun n hn => hd n (.inr (hn.resolve_left (by simp)))
    exact isNumberUnless_ofZoom (Option.some.inj hk) hm (hbase f.base rfl) (hpos rfl) hz _ hdefault _
  | property f =>
    exact isNumberUnless_ofProperty (Option.some.inj hk) hm (hbase f.base rfl) (hpos rfl)
      (hv f.property rfl) hn (hdefault rfl)
  | zoomAndProperty f =>
    exact isNumberUnless_ofZoomAndProperty (Option.some.inj hk) hm (hbase f.base rfl) (hpos rfl) hz
      (hv f.property rfl) hn (hdefault rfl)

end Evaluator

end

/-! ## Heights and populations -/

namespace Evaluator

open Declaration Interpolator

/-- Heights that grow by powers of two, and at the zoom level ten ten times as high. -/
def growing : Json :=
  .object (("base", Json.natural 2) :: twoLevels "height" (ramp 10) (ramp 110))

def growingFunction : ZoomPropertyFunction :=
  ⟨"height", [(0, ramp 10), (10, ramp 110)], 2, .exponential, none⟩

theorem isLost_pair_iff [Powers Float] {scale : Scale Float} {a b x : Float} :
    IsLost scale [a, b] x ↔ a ≤ x ∧ x < b ∧ scale.Loses a x b := by
  constructor
  · rintro ⟨k, a', b', ha, hb, h⟩
    cases k with
    | zero =>
      obtain rfl := Option.some.inj ha
      obtain rfl := Option.some.inj hb
      exact h
    | succ k => simp at hb
  · intro h
    exact ⟨0, a, b, rfl, rfl, h⟩

theorem isModerate_growing :
    letI : Powers Float := ⟨coarse⟩
    Declaration.IsModerate (.zoomAndProperty growingFunction) := by
  decide +kernel

theorem levelsAt_growing :
    letI : Powers Float := ⟨coarse⟩
    levelsAt (5 : Float) (.zoomAndProperty growingFunction) = [ramp 10, ramp 110] := by
  let powers : Powers Float := ⟨coarse⟩
  have hplace : locate? (5 : Float) [0, 10] = some (.between 0 1) := by decide
  exact levelsAt_between (f := growingFunction) (k := 0) rfl hplace rfl rfl

theorem not_isLost_five :
    letI : Powers Float := ⟨coarse⟩
    ¬ IsLost (Scale.ofBase 2) [0, 10] 5 := by
  let powers : Powers Float := ⟨coarse⟩
  rw [isLost_pair_iff]
  unfold Scale.Loses
  decide

/-- Halfway between two levels and between two stops of each, a height is a number. -/
theorem compile_exponential_growing :
    letI : Powers Float := ⟨coarse⟩
    ∃ e : Evaluator Float, compile "fill-extrusion-height" (some growing) none = .ok e ∧
      ∃ y, e.evaluate 5 (pointWith "height" (Json.natural 5)) = .number y ∧ y.isNaN = false := by
  let powers : Powers Float := ⟨coarse⟩
  have lawful : Lawful := lawful_coarse
  have hd : Declaration.ofJson "fill-extrusion-height" growing =
      .ok (.zoomAndProperty growingFunction) := rfl
  have hbase (base : Float) (hb : some (2 : Float) = some base) : base.isFinite = true := by
    obtain rfl := Option.some.inj hb
    decide
  have hdefault (n : Number) (hn : growing.member? "default" = some (.number n) ∨
      none = some (Json.number n)) : n.toFloat.isFinite = true := by
    have hnone : growing.member? "default" = none := rfl
    simp [hnone] at hn
  obtain ⟨e, he, h⟩ := compile_exponential hd rfl isModerate_growing hbase none hdefault
  have hvalue := h 5 (pointWith "height" (Json.natural 5)) (.natural 5) (by decide) (by decide)
    (fun property hp => by
      obtain rfl := Option.some.inj hp
      rfl)
  have hlevels := levelsAt_growing
  refine ⟨e, he, ?_⟩
  obtain ⟨y, hy, hiff⟩ := hvalue.exists_number (by
    refine ⟨by simp [growingFunction], ?_⟩
    rw [hlevels]
    decide)
  refine ⟨y, hy, Bool.eq_false_of_not_eq_true fun hnan => ?_⟩
  obtain hlost | ⟨stops, hs, hlost⟩ := hiff.1 hnan
  · exact not_isLost_five hlost
  · rw [hlevels] at hs
    obtain rfl | rfl : stops = ramp 10 ∨ stops = ramp 110 := by simpa using hs
    · exact not_isLost_five hlost
    · exact not_isLost_five hlost

/-- A moderate function gives no number at a zoom level for a feature. -/
def GivesNoNumber [Powers Float] (name : String) (value : Json) (z : Float) (feature : Feature) :
    Prop :=
  ∃ d, Declaration.ofJson name value = .ok d ∧ d.kind? = some .exponential ∧ d.IsModerate ∧
    (∃ base, d.base? = some base ∧ base.isFinite = true ∧ 0 < base) ∧
    ∃ e : Evaluator Float, compile name (some value) none = .ok e ∧
      (e.evaluate z feature).asNumber?.any Float.isNaN = true

/-- Radii by population, the same up to a million. -/
def populationRadii : Json :=
  .object [("base", Json.double 1.5), ("property", .string "population"),
    ("stops", pairsToJson [(Json.natural 0, Json.natural 3),
      (Json.natural 1000000, Json.natural 3), (Json.natural 2000000, Json.natural 9)])]

/-- The same radius between two zoom levels that are too far apart. -/
def farRadii : Json :=
  .object [("stops", pairsToJson [(Json.double (-1.6e308), Json.natural 3),
    (Json.double 1.6e308, Json.natural 3)])]

/-- Both extents of the population are infinite. So are both extents of the zoom level, in the
arithmetic that programs run and without a power. -/
theorem givesNoNumber_populationRadii :
    @GivesNoNumber ⟨coarse⟩ "circle-radius" populationRadii 0
        (pointWith "population" (Json.natural 50000)) ∧
      @GivesNoNumber ⟨Float.pow⟩ "circle-radius" farRadii 8e307 (Feature.blank .point) := by
  refine ⟨⟨_, rfl, rfl, ?_, ⟨1.5, rfl, by decide, by decide⟩, _, rfl, ?_⟩,
    ⟨_, rfl, rfl, ?_, ⟨1, rfl, by decide, by decide⟩, _, rfl, ?_⟩⟩
  all_goals decide +kernel

end Evaluator

end StyledMap
