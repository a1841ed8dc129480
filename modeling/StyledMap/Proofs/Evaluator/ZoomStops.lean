import StyledMap.Proofs.Declaration.Grammar
import StyledMap.Proofs.Double.Order
import StyledMap.Proofs.Evaluator.InRange
import StyledMap.Proofs.Exact

/-! # Functions of the zoom level at their stops

At the zoom level of one of its stops a function gives the output of this stop, read as a declared
constant is, with one exception. Outputs of one type are read without regard to the property, so
that two stops or more with colors for outputs give colors even to a property that takes none.

* `areColors`: these stops.
* `Interpolator.Reads`: what an interpolator has from stops. Each way of building one is followed
  to it, and what comes after no longer asks how the interpolator was built.
* `Interpolator.evaluate?_stop`: an interpolator at one of its positions.
* `LowerOutputCounts`: what is asked of the arithmetic at a stop. `lowerOutputCounts_exact` gives it
  for exact arithmetic.
* `compile_zoom_stop`: at a stop, a function agrees with the constant of its output just outside the
  exception.
-/

set_option autoImplicit false

namespace StyledMap

variable {α : Type} [Arith α]

/-- Whether stops are two at least and have colors for outputs. -/
def areColors (α : Type) [Arith α] {β : Type} (stops : List (β × Json)) : Bool :=
  decide (2 ≤ stops.length) && stops.all fun stop => StopKind.ofJson α stop.2 == .color

theorem areColors_iff {β : Type} {stops : List (β × Json)} :
    areColors α stops = true ↔
      2 ≤ stops.length ∧ ∀ stop ∈ stops, StopKind.ofJson α stop.2 = .color := by
  simp [areColors]

/-! ## Outputs -/

namespace Value

theorem exists_color_of_kind {j : Json} (h : StopKind.ofJson α j = .color) :
    ∃ s c, j = .string s ∧ Color.parse? s = some c ∧ (ofJson true j : Value α) = color c := by
  have hparse := Outputs.isSome_parse? h
  cases j with
  | string s =>
    obtain ⟨c, hc⟩ : ∃ c, Color.parse? (α := α) s = some c := Option.isSome_iff_exists.1 hparse
    refine ⟨s, c, rfl, hc, ?_⟩
    rw [ofJson, ofString, if_pos rfl, hc]
  | _ => simp [Json.asString?] at hparse

/-- A value that is no color is read the same by every property. -/
theorem ofJson_of_kind {j : Json} (h : StopKind.ofJson α j ≠ .color) (colors : Bool) :
    (ofJson colors j : Value α) = ofJson false j := by
  cases colors with
  | false => rfl
  | true =>
    cases j with
    | string s =>
      have hnone : Color.parse? (α := α) s = none := by
        by_contra hsome
        have hcolor : Color.isColor α s = true := Option.isSome_iff_ne_none.2 hsome
        exact h (by rw [StopKind.ofJson, if_pos hcolor])
      rw [ofJson, ofJson, ofString, ofString, if_pos rfl, hnone, if_neg Bool.false_ne_true]
    | _ => rfl

end Value

/-- Where nothing is left out, items keep their indices. -/
theorem getElem?_filterMap_of_isSome {β γ : Type} {f : β → Option γ} {xs : List β}
    (h : ∀ x ∈ xs, (f x).isSome = true) (k : Nat) : (xs.filterMap f)[k]? = xs[k]?.bind f := by
  induction xs generalizing k with
  | nil => rfl
  | cons x xs ih =>
    obtain ⟨hx, hxs⟩ := List.forall_mem_cons.1 h
    obtain ⟨y, hy⟩ := Option.isSome_iff_exists.1 hx
    rw [List.filterMap_cons_some hy]
    cases k with
    | zero => exact hy.symm
    | succ k => exact ih hxs k

namespace Outputs

theorem get?_ofStops {kind : StopKind} {stops : List (α × Json)}
    (h : ∀ stop ∈ stops, StopKind.ofJson α stop.2 = kind) {k : Nat} {stop : α × Json}
    (hk : stops[k]? = some stop) :
    (ofStops kind stops).get? k = some (Value.ofJson (kind == .color) stop.2) := by
  have hstop := h stop (List.mem_of_getElem? hk)
  cases kind with
  | number =>
    have hsome : ∀ s ∈ stops, (s.2.asFloat?.map (Arith.ofDouble (α := α))).isSome = true :=
      fun s hs => Option.isSome_map.trans (isSome_asFloat? (h s hs))
    rw [ofStops, get?, getElem?_filterMap_of_isSome hsome, hk]
    have hfloat := isSome_asFloat? hstop
    obtain ⟨z, j⟩ := stop
    cases j with
    | number n => rfl
    | _ => simp [Json.asFloat?] at hfloat
  | color =>
    have hsome : ∀ s ∈ stops, (s.2.asString?.bind (Color.parse? (α := α))).isSome = true :=
      fun s hs => isSome_parse? (h s hs)
    obtain ⟨s, c, hs, hc, hv⟩ := Value.exists_color_of_kind hstop
    rw [ofStops, get?, getElem?_filterMap_of_isSome hsome, hk, Option.bind_some, hs,
      Json.asString?, Option.bind_some, hc, Option.map_some, ← hs]
    exact congrArg some hv.symm
  | string | bool | other => rw [ofStops, get?, List.getElem?_map, hk]; rfl

/-- Outputs blend to the lower one at position zero when the values do. -/
theorem blend?_lower {outputs : Outputs α} {lower upper : Nat} {below above : Value α}
    (hl : outputs.get? lower = some below) (hu : outputs.get? upper = some above)
    (hb : below.blend Arith.zero above = below) :
    outputs.blend? lower Arith.zero upper = some below := by
  cases outputs with
  | numbers xs =>
    obtain ⟨x, hx, rfl⟩ := Option.map_eq_some_iff.1 hl
    obtain ⟨y, hy, rfl⟩ := Option.map_eq_some_iff.1 hu
    rw [blend?, hx, hy]
    exact congrArg some hb
  | colors cs =>
    obtain ⟨c, hc, rfl⟩ := Option.map_eq_some_iff.1 hl
    obtain ⟨d, hd, rfl⟩ := Option.map_eq_some_iff.1 hu
    rw [blend?, hc, hd]
    exact congrArg some hb
  | values vs => exact hl

end Outputs

/-! ## Interpolators -/

namespace Interpolator

/-- An interpolator has the positions of stops and their outputs, and measures by a scale unless it
steps. -/
structure Reads (i : Interpolator α) (colors : Bool) (scale : Scale α)
    (stops : List (α × Json)) : Prop where
  positions : i.positions = stops.map Prod.fst
  outputs : ∀ k stop, stops[k]? = some stop →
    i.outputs.get? k = some (Value.ofJson colors stop.2)
  scale : i.scale = .step ∨ i.scale = scale

variable {i : Interpolator α} {colors : Bool} {scale : Scale α} {stops : List (α × Json)} {base : α}

theorem Reads.toStepping (h : i.Reads colors scale stops) (scale' : Scale α) :
    i.toStepping.Reads colors scale' stops :=
  ⟨h.positions, h.outputs, .inl rfl⟩

theorem reads_of_stepping? (h : stepping? colors stops = some i) (scale : Scale α) :
    i.Reads colors scale stops := by
  unfold stepping? at h
  split at h
  · obtain rfl := Option.some.inj h
    refine ⟨rfl, fun k stop hk => ?_, .inl rfl⟩
    rw [Outputs.get?, List.getElem?_map, hk, Option.map_some]
  · simp at h

/-- Outputs of one type are read as this type asks, which the property has no say in. -/
theorem reads_of_ofStops? (h : ofStops? stops base = some i) (colors : Bool) :
    i.Reads (colors || areColors α stops) (Scale.ofBase base) stops := by
  unfold ofStops? at h
  split at h
  · next first second rest =>
    simp only at h
    split at h
    · next hall =>
      have hkind : ∀ stop ∈ first :: second :: rest,
          StopKind.ofJson α stop.2 = StopKind.ofJson α first.2 :=
        fun stop hs => beq_iff_eq.1 (List.all_eq_true.1 hall stop hs)
      generalize StopKind.ofJson α first.2 = kind at h hkind
      obtain rfl := Option.some.inj h
      refine ⟨rfl, fun k stop hk => ?_, ?_⟩
      · rw [Outputs.get?_ofStops hkind hk]
        by_cases hcolor : kind = .color
        · have hcolors : areColors α (first :: second :: rest) = true :=
            areColors_iff.2 ⟨by simp, hcolor ▸ hkind⟩
          rw [hcolors, Bool.or_true, hcolor]
          rfl
        · have hstop := hkind stop (List.mem_of_getElem? hk)
          have hread := Value.ofJson_of_kind (α := α) (hstop ▸ hcolor)
          rw [hread, hread (colors || _)]
      · cases kind with
        | number | color => exact .inr rfl
        | string | bool | other => exact .inl rfl
    · simp at h
  · simp at h

/-- Two colors or more have one type. -/
theorem areColors_of_ofStops?_eq_none (h : ofStops? stops base = none) :
    areColors α stops = false := by
  by_contra hcolors
  obtain ⟨hlen, hkind⟩ := areColors_iff.1 (Bool.eq_true_of_not_eq_false hcolors)
  match stops with
  | first :: second :: rest =>
    have hall : (first :: second :: rest).all (fun stop =>
        StopKind.ofJson α stop.2 == StopKind.ofJson α first.2) = true := by
      rw [List.all_eq_true]
      intro stop hs
      rw [hkind stop hs, hkind first List.mem_cons_self]
      rfl
    rw [ofStops?] at h
    simp only [hall, if_true, reduceCtorEq] at h

/-- At one of increasing positions the output is that of the position, if the next one does not
count there. -/
theorem evaluate?_stop [Std.Asymm (fun x y : α => x < y)] (hp : i.positions.Pairwise (· < ·))
    {k : Nat} {z : α} {v : Value α} (hz : i.positions[k]? = some z)
    (hv : i.outputs.get? k = some v)
    (hupper : ∀ u, i.positions[k + 1]? = some u → i.scale ≠ .step →
      i.scale.position z z u = Arith.zero ∧
        ∃ above, i.outputs.get? (k + 1) = some above ∧ v.blend Arith.zero above = v) :
    i.evaluate? z = some v := by
  rw [evaluate?, locate?_of_getElem? hp hz, placeOf]
  by_cases hlast : k + 1 < i.positions.length
  · have hu : i.positions[k + 1]? = some i.positions[k + 1] := List.getElem?_eq_getElem hlast
    have hnext := hupper _ hu
    rw [if_pos hlast]
    simp only [between?, hz, hu]
    cases hs : i.scale with
    | step => exact hv
    | linear | exponential base =>
      rw [hs] at hnext
      obtain ⟨hposition, above, habove, hblend⟩ := hnext (by simp)
      change i.outputs.blend? k (Scale.position _ z z _) (k + 1) = some v
      rw [hposition]
      exact Outputs.blend?_lower hv habove hblend
  · rw [if_neg hlast]
    exact hv

end Interpolator

/-! ## Curves -/

namespace Curve

variable {colors : Bool} {base : α} {stops : List (α × Json)} {i : Interpolator α}

theorem reads_of_interpolatorOf? (h : interpolatorOf? colors base stops = some i) :
    i.Reads (colors || areColors α stops) (Scale.ofBase base) stops := by
  unfold interpolatorOf? at h
  split at h
  · next hi =>
    obtain rfl := Option.some.inj h
    exact Interpolator.reads_of_ofStops? hi colors
  · next hnone =>
    rw [Interpolator.areColors_of_ofStops?_eq_none hnone, Bool.or_false]
    exact Interpolator.reads_of_stepping? h _

theorem exists_interpolatorOf? (colors : Bool) (base : α) (hlen : 2 ≤ stops.length) :
    ∃ i, interpolatorOf? colors base stops = some i := by
  unfold interpolatorOf?
  split
  · exact ⟨_, rfl⟩
  · match stops with
    | _ :: _ :: _ => exact ⟨_, rfl⟩

theorem exists_ofNumericStops (colors : Bool) (base : α) (kind : FunctionKind)
    (hlen : 2 ≤ stops.length) :
    ∃ i, ofNumericStops colors base kind stops = interpolated i ∧
      i.Reads (colors || areColors α stops) (Evaluator.zoomScale kind base) stops := by
  obtain ⟨i, hi⟩ := exists_interpolatorOf? colors base hlen
  have hreads := reads_of_interpolatorOf? hi
  have hcurve : ofNumericStops colors base kind stops =
      interpolated (if kind = .interval then i.toStepping else i) := by
    match stops with
    | _ :: _ :: _ => rw [ofNumericStops, hi] <;> simp
  refine ⟨_, hcurve, ?_⟩
  rw [Evaluator.zoomScale]
  split
  · exact hreads.toStepping _
  · exact hreads

end Curve

/-! ## Evaluators -/

namespace Evaluator

/-- The zoom levels of a function are increasing. -/
def IncreasingZooms (α : Type) [Arith α] (f : ZoomFunction) : Prop :=
  Increasing (f.stops.map fun stop => ((Arith.ofDouble stop.1 : α), stop.2))

/-- At its stop `lower` a function measures position zero on the way to the next stop, and there the
two outputs, however they are read, blend to the lower one. -/
def LowerOutputCounts (α : Type) [Arith α] (f : ZoomFunction) (lower upper : Float × Json) : Prop :=
  (zoomScale f.kind (Arith.ofDouble f.base : α)).position (Arith.ofDouble lower.1)
      (Arith.ofDouble lower.1) (Arith.ofDouble upper.1) = Arith.zero ∧
    ∀ colors, (Value.ofJson colors lower.2 : Value α).blend Arith.zero
      (Value.ofJson colors upper.2) = Value.ofJson colors lower.2

section

open Exact

variable {K : Type} [Field K] [LinearOrder K] [FloorRing K] [Powers K]

theorem mix_zero (x y : K) : Color.mix x Arith.zero y = x := by
  have h : x + 0 * (y - x) = x := by rw [zero_mul, add_zero]
  rw [zero_eq]
  exact h

theorem blend_zero (lower upper : Value K) : lower.blend Arith.zero upper = lower := by
  cases lower with
  | number x =>
    cases upper with
    | number y => exact congrArg Value.number (mix_zero x y)
    | _ => rfl
  | color c =>
    cases upper with
    | color d => simp only [Value.blend, Color.blend, mix_zero]
    | _ => rfl
  | _ => cases upper <;> rfl

theorem position_lower (hpow : ∀ base : K, Powers.pow base 0 = 1) (scale : Scale K) (a b : K) :
    scale.position a a b = Arith.zero := by
  unfold Scale.position
  split
  · rfl
  · rw [zero_eq]
    cases scale with
    | linear =>
      have h : (a - a) / (b - a) = 0 := by rw [sub_self, zero_div]
      exact h
    | exponential base =>
      have h : (Powers.pow base (a - a) - 1) / (Powers.pow base (b - a) - 1) = 0 := by
        rw [sub_self, hpow, sub_self, zero_div]
      simp only [one_eq]
      exact h
    | step => rfl

/-- In exact arithmetic the lower output always counts, if the powers with exponent zero are one. -/
theorem lowerOutputCounts_exact (hpow : ∀ base : K, Powers.pow base 0 = 1) (f : ZoomFunction)
    (lower upper : Float × Json) : LowerOutputCounts K f lower upper :=
  ⟨position_lower hpow _ _ _, fun _ => blend_zero _ _⟩

end

variable {f : ZoomFunction} {k : Nat} {stop : Float × Json}

theorem areColors_ofDouble (stops : List (Float × Json)) :
    areColors α (stops.map fun stop => ((Arith.ofDouble stop.1 : α), stop.2)) =
      areColors α stops := by
  rw [areColors, areColors, List.length_map, List.all_map]
  rfl

/-- At a stop the value is the output of the stop. -/
theorem evaluate_ofZoom_stop [Std.Asymm (fun x y : α => x < y)] (hz : IncreasingZooms α f)
    (hk : f.stops[k]? = some stop)
    (hb : ∀ upper, f.stops[k + 1]? = some upper → LowerOutputCounts α f stop upper)
    (colors : Bool) (default : Value α) (feature : Feature) :
    (ofZoom colors default f).evaluate (Arith.ofDouble stop.1) feature =
      Value.ofJson (colors || areColors α f.stops) stop.2 := by
  match hstops : f.stops with
  | [] => simp [hstops] at hk
  | [only] =>
    have hone : areColors α [only] = false := rfl
    obtain ⟨rfl, rfl⟩ : k = 0 ∧ only = stop := by
      rw [hstops] at hk
      obtain ⟨hlt, hk⟩ := List.getElem?_eq_some_iff.1 hk
      obtain rfl : k = 0 := by simpa using hlt
      exact ⟨rfl, hk⟩
    rw [hone, Bool.or_false, ofZoom, hstops]
    rfl
  | first :: second :: rest =>
    let stops : List (α × Json) := f.stops.map fun stop => (Arith.ofDouble stop.1, stop.2)
    have hlen : 2 ≤ stops.length := by simp [stops, hstops]
    have hstop {n : Nat} {s : Float × Json} (hn : f.stops[n]? = some s) :
        stops[n]? = some (Arith.ofDouble s.1, s.2) := by
      rw [List.getElem?_map, hn, Option.map_some]
    obtain ⟨i, hi, hreads⟩ := Curve.exists_ofNumericStops colors (Arith.ofDouble f.base) f.kind hlen
    have hzoom {n : Nat} {s : Float × Json} (hn : f.stops[n]? = some s) :
        i.positions[n]? = some (Arith.ofDouble s.1) := by
      rw [hreads.positions, List.getElem?_map, hstop hn, Option.map_some]
    have hp : i.positions.Pairwise (· < ·) := by
      rw [hreads.positions, List.pairwise_map]
      exact hz
    have heval : i.evaluate? (Arith.ofDouble stop.1) =
        some (Value.ofJson (colors || areColors α stops) stop.2) := by
      refine Interpolator.evaluate?_stop hp (hzoom hk) (hreads.outputs k _ (hstop hk)) ?_
      intro u hu hs
      have hlast : k + 1 < f.stops.length := by
        have hlt := (List.getElem?_eq_some_iff.1 hu).1
        rw [hreads.positions, List.length_map, List.length_map] at hlt
        exact hlt
      have hn : f.stops[k + 1]? = some f.stops[k + 1] := List.getElem?_eq_getElem hlast
      obtain ⟨hposition, hblend⟩ := hb _ hn
      obtain rfl : Arith.ofDouble f.stops[k + 1].1 = u := Option.some.inj ((hzoom hn).symm.trans hu)
      rw [hreads.scale.resolve_left hs]
      exact ⟨hposition, _, hreads.outputs (k + 1) _ (hstop hn), hblend _⟩
    rw [← hstops, ← areColors_ofDouble]
    have hzoomEval : (ofZoom colors default f).evaluate? (Arith.ofDouble stop.1) feature =
        i.evaluate? (Arith.ofDouble stop.1) := by
      rw [ofZoom, hi]
      rfl
    rw [evaluate, hzoomEval, heval, Option.getD_some]

/-- At the zoom level of a stop a function and the constant of the output of the stop have the same
value, unless the property takes no colors and the function has two stops or more with colors for
outputs. Then the function gives the color, and the constant the string that it is written as. -/
theorem compile_zoom_stop [Std.Asymm (fun x y : α => x < y)] {name : String} {value : Json}
    (hf : Declaration.ofJson name value = .ok (.zoom f)) (hz : IncreasingZooms α f)
    (hk : f.stops[k]? = some stop) (hc : Declaration.isFunctionValue stop.2 = false)
    (hb : ∀ upper, f.stops[k + 1]? = some upper → LowerOutputCounts α f stop upper)
    (default : Option Json) :
    ∃ function constant : Evaluator α, compile name (some value) default = .ok function ∧
      compile name (some stop.2) default = .ok constant ∧
      (∀ feature zoom,
        function.evaluate (Arith.ofDouble stop.1) feature = constant.evaluate zoom feature ↔
          takesColors α name default = true ∨ areColors α f.stops = false) ∧
      (takesColors α name default = false → areColors α f.stops = true →
        ∃ s color, stop.2 = .string s ∧ Color.parse? s = some color ∧ ∀ feature zoom,
          function.evaluate (Arith.ofDouble stop.1) feature = .color color ∧
          constant.evaluate zoom feature = .string s) := by
  have hconstant : Declaration.ofJson name stop.2 = .ok (.constant stop.2) :=
    Declaration.ofJson_of_isFunctionValue_eq_false hc
  refine ⟨ofZoom _ _ f, .constant (Value.ofJson _ stop.2), Reading.map_eq_ok.2 ⟨_, hf, rfl⟩,
    Reading.map_eq_ok.2 ⟨_, hconstant, rfl⟩, ?_⟩
  generalize takesColors α name default = colors
  have hfunction := evaluate_ofZoom_stop hz hk hb colors (defaultOf colors default)
  have hstring (feature : Feature) (zoom : α) :
      (Evaluator.constant (Value.ofJson colors stop.2)).evaluate zoom feature =
        Value.ofJson colors stop.2 := rfl
  have hcolors (hall : areColors α f.stops = true) :=
    Value.exists_color_of_kind ((areColors_iff.1 hall).2 stop (List.mem_of_getElem? hk))
  refine ⟨fun feature zoom => ?_, fun hno hall => ?_⟩
  · rw [hfunction, hstring]
    constructor
    · intro heq
      by_contra h
      obtain ⟨hno, hall⟩ := not_or.1 h
      obtain rfl : colors = false := Bool.eq_false_of_not_eq_true hno
      have hall : areColors α f.stops = true := Bool.eq_true_of_not_eq_false hall
      obtain ⟨s, color, hs, -, hv⟩ := hcolors hall
      rw [hall, Bool.or_true, hv, hs] at heq
      simp [Value.ofJson, Value.ofString] at heq
    · rintro (rfl | hnone)
      · rw [Bool.true_or]
      · rw [hnone, Bool.or_false]
  · obtain ⟨s, color, hs, hcolor, hv⟩ := hcolors hall
    refine ⟨s, color, hs, hcolor, fun feature zoom => ⟨?_, ?_⟩⟩
    · rw [hfunction, hall, Bool.or_true, hv]
    · rw [hstring, hno, hs]
      rfl

/-! ## Red to blue -/

/-- A function of the zoom level that is red at level zero and blue at level ten. -/
def redToBlue : Json :=
  .object [("stops", Declaration.pairsToJson
    [(.number (.natural 0), .string "red"), (.number (.natural 10), .string "blue")])]

def redToBlueFunction : ZoomFunction :=
  ⟨[(0, .string "red"), (10, .string "blue")], 1.0, .exponential⟩

theorem increasingZooms_redToBlue : IncreasingZooms Float redToBlueFunction := by
  refine .cons ?_ (.cons ?_ .nil) <;> decide

theorem lowerOutputCounts_redToBlue :
    LowerOutputCounts Float redToBlueFunction (0, .string "red") (10, .string "blue") := by
  refine ⟨by rfl, fun colors => ?_⟩
  cases colors <;> rfl

/-- The color of a line. -/
theorem compile_zoom_stop_lineColor :
    IncreasingZooms Float redToBlueFunction ∧
      Declaration.isFunctionValue (.string "red") = false ∧
      LowerOutputCounts Float redToBlueFunction (0, .string "red") (10, .string "blue") ∧
      ∃ function constant : Evaluator Float,
        compile "line-color" (some redToBlue) none = .ok function ∧
        compile "line-color" (some (.string "red")) none = .ok constant ∧
        ∀ feature zoom, function.evaluate 0 feature = constant.evaluate zoom feature := by
  have hf : Declaration.ofJson "line-color" redToBlue = .ok (.zoom redToBlueFunction) := rfl
  have hk : redToBlueFunction.stops[0]? = some (0, .string "red") := rfl
  have hb : ∀ upper, redToBlueFunction.stops[1]? = some upper →
      LowerOutputCounts Float redToBlueFunction (0, .string "red") upper := by
    rintro upper hu
    obtain rfl := Option.some.inj hu
    exact lowerOutputCounts_redToBlue
  obtain ⟨function, constant, hfunction, hconstant, hsame, -⟩ :=
    compile_zoom_stop hf increasingZooms_redToBlue hk rfl hb none
  refine ⟨increasingZooms_redToBlue, rfl, lowerOutputCounts_redToBlue, function, constant,
    hfunction, hconstant, fun feature zoom => (hsame feature zoom).2 (.inl ?_)⟩
  decide

/-- The text of a label. The word is given as a color. -/
theorem compile_zoom_stop_textField :
    Declaration.ofJson "text-field" redToBlue = .ok (.zoom redToBlueFunction) ∧
      IncreasingZooms Float redToBlueFunction ∧
      LowerOutputCounts Float redToBlueFunction (0, .string "red") (10, .string "blue") ∧
      ∃ function constant : Evaluator Float,
        compile "text-field" (some redToBlue) none = .ok function ∧
        compile "text-field" (some (.string "red")) none = .ok constant ∧
        ∀ feature zoom, function.evaluate 0 feature = .color ⟨1, 0, 0, 1⟩ ∧
          constant.evaluate zoom feature = .string "red" :=
  ⟨rfl, increasingZooms_redToBlue, lowerOutputCounts_redToBlue, _, _, rfl, rfl,
    fun _ _ => ⟨rfl, rfl⟩⟩

end Evaluator

end StyledMap
