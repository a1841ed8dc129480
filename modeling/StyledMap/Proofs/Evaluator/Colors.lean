import StyledMap.Evaluator
import StyledMap.Proofs.Reading

/-! # Colors are read

A property that takes colors reads every string that it could give, be it a constant, an output of a
stop, a default or the value of a feature. So none of its values is a string that is a color.

* `Value.IsParsed`: a value is no such string. Blending keeps it so.
* `Outputs.AreParsed`, `Curve.IsParsed` and `Evaluator.IsParsed`: everything that can be given is.
  Stops of one type are read without regard to colors, so there the type has to tell strings that
  are colors from others.
* `isParsed_of_compile`: what is compiled with colors is parsed.
* `isColor_of_evaluate`: a string that a property of colors gives is no color.
-/

set_option autoImplicit false

namespace StyledMap

variable {α : Type} [Arith α]

/-! ## Values -/

namespace Value

/-- A value is no string that is a color. -/
def IsParsed (v : Value α) : Prop :=
  ∀ s, v = string s → Color.isColor α s = false

theorem isParsed_ofString (s : String) : (ofString true s : Value α).IsParsed := by
  intro t ht
  rw [ofString, if_pos rfl] at ht
  split at ht
  · simp at ht
  · next hnone =>
    obtain rfl := string.inj ht
    rw [Color.isColor, hnone, Option.isSome_none]

theorem isParsed_ofJson (j : Json) : (ofJson true j : Value α).IsParsed := by
  cases j with
  | string s => exact isParsed_ofString s
  | _ => simp [IsParsed, ofJson]

/-- Read without regard to colors, a value is parsed all the same if its type is not that of
colors. -/
theorem isParsed_of_kind {j : Json} (h : StopKind.ofJson α j ≠ .color) :
    (ofJson false j : Value α).IsParsed := by
  intro s hs
  cases j with
  | string t =>
    obtain rfl : t = s := by simpa [ofJson, ofString] using hs
    by_contra hc
    have hcolor : Color.isColor α t = true := by simpa using hc
    exact h (by rw [StopKind.ofJson, if_pos hcolor])
  | _ => simp [ofJson] at hs

theorem IsParsed.blend {lower : Value α} (h : lower.IsParsed) (t : α) (upper : Value α) :
    (lower.blend t upper).IsParsed := by
  unfold Value.blend
  split
  · simp [IsParsed]
  · simp [IsParsed]
  · exact h

end Value

/-! ## Outputs -/

namespace Outputs

/-- Every output is parsed. -/
def AreParsed (outputs : Outputs α) : Prop :=
  ∀ k v, outputs.get? k = some v → v.IsParsed

theorem areParsed_values {vs : List (Value α)} (h : ∀ v ∈ vs, v.IsParsed) :
    (values vs).AreParsed :=
  fun _ v hv => h v (List.mem_of_getElem? hv)

theorem areParsed_numbers (xs : List α) : (numbers xs).AreParsed := by
  intro k v hv s hs
  obtain ⟨x, -, rfl⟩ := Option.map_eq_some_iff.1 hv
  simp at hs

theorem areParsed_colors (cs : List (Color α)) : (colors cs).AreParsed := by
  intro k v hv s hs
  obtain ⟨c, -, rfl⟩ := Option.map_eq_some_iff.1 hv
  simp at hs

theorem areParsed_ofStops {kind : StopKind} {stops : List (α × Json)}
    (h : ∀ stop ∈ stops, StopKind.ofJson α stop.2 = kind) : (ofStops kind stops).AreParsed := by
  have hvalues (hk : kind ≠ .color) :
      (values (stops.map fun stop => Value.ofJson false stop.2) : Outputs α).AreParsed := by
    refine areParsed_values fun v hv => ?_
    obtain ⟨stop, hs, rfl⟩ := List.mem_map.1 hv
    exact Value.isParsed_of_kind (h stop hs ▸ hk)
  cases kind with
  | number => exact areParsed_numbers _
  | color => exact areParsed_colors _
  | string => exact hvalues (by decide)
  | bool => exact hvalues (by decide)
  | other => exact hvalues (by decide)

theorem AreParsed.blend? {outputs : Outputs α} (h : outputs.AreParsed) {lower upper : Nat} {t : α}
    {v : Value α} (hv : outputs.blend? lower t upper = some v) : v.IsParsed := by
  cases outputs with
  | numbers xs =>
    obtain ⟨x, -, hv⟩ := Option.bind_eq_some_iff.1 hv
    obtain ⟨y, -, hv⟩ := Option.bind_eq_some_iff.1 hv
    obtain rfl := Option.some.inj hv
    simp [Value.IsParsed]
  | colors cs =>
    obtain ⟨c, -, hv⟩ := Option.bind_eq_some_iff.1 hv
    obtain ⟨d, -, hv⟩ := Option.bind_eq_some_iff.1 hv
    obtain rfl := Option.some.inj hv
    simp [Value.IsParsed]
  | values vs => exact h lower v hv

end Outputs

/-! ## Interpolators -/

namespace Interpolator

variable {i : Interpolator α} {stops : List (α × Json)}

theorem areParsed_of_ofStops? {base : α} (h : ofStops? stops base = some i) :
    i.outputs.AreParsed := by
  unfold ofStops? at h
  split at h
  · next first second rest =>
    simp only at h
    split at h
    · next hkind =>
      obtain rfl := Option.some.inj h
      have hall := List.all_eq_true.1 hkind
      exact Outputs.areParsed_ofStops fun stop hs => beq_iff_eq.1 (hall stop hs)
    · simp at h
  · simp at h

theorem areParsed_of_stepping? (h : stepping? true stops = some i) : i.outputs.AreParsed := by
  unfold stepping? at h
  split at h
  · obtain rfl := Option.some.inj h
    refine Outputs.areParsed_values fun v hv => ?_
    obtain ⟨stop, -, rfl⟩ := List.mem_map.1 hv
    exact Value.isParsed_ofJson stop.2
  · simp at h

theorem isParsed_of_between? (h : i.outputs.AreParsed) {lower upper : Nat} {x : α} {v : Value α}
    (hv : i.between? lower x upper = some v) : v.IsParsed := by
  obtain ⟨a, -, hv⟩ := Option.bind_eq_some_iff.1 hv
  obtain ⟨b, -, hv⟩ := Option.bind_eq_some_iff.1 hv
  cases hs : i.scale with
  | step =>
    rw [hs] at hv
    exact h lower v hv
  | linear =>
    rw [hs] at hv
    exact h.blend? hv
  | exponential base =>
    rw [hs] at hv
    exact h.blend? hv

theorem isParsed_of_evaluate? (h : i.outputs.AreParsed) {x : α} {v : Value α}
    (hv : i.evaluate? x = some v) : v.IsParsed := by
  unfold evaluate? at hv
  split at hv
  · simp at hv
  · exact h _ v hv
  · exact isParsed_of_between? h hv

end Interpolator

/-! ## Curves -/

namespace Curve

/-- Every output that a curve can give is parsed, those that it takes from features included. -/
def IsParsed : Curve α → Prop
  | interpolated i => i.outputs.AreParsed
  | categorical outputs => ∀ entry ∈ outputs, entry.2.IsParsed
  | identity colors => colors = true
  | constant value => value.IsParsed
  | fallback => True

theorem areParsed_of_interpolatorOf? {base : α} {stops : List (α × Json)} {i : Interpolator α}
    (h : interpolatorOf? true base stops = some i) : i.outputs.AreParsed := by
  unfold interpolatorOf? at h
  split at h
  · next hi =>
    obtain rfl := Option.some.inj h
    exact Interpolator.areParsed_of_ofStops? hi
  · exact Interpolator.areParsed_of_stepping? h

theorem isParsed_ofNumericStops (base : α) (kind : FunctionKind) (stops : List (α × Json)) :
    (ofNumericStops true base kind stops).IsParsed := by
  unfold ofNumericStops
  split
  · trivial
  · exact Value.isParsed_ofJson _
  · split
    · trivial
    · next i hi =>
      have hparsed := areParsed_of_interpolatorOf? hi
      split
      · exact hparsed
      · exact hparsed

theorem isParsed_ofCategories (stops : List (Json × Json)) :
    (ofCategories true stops : Curve α).IsParsed := by
  intro entry he
  obtain ⟨stop, -, hstop⟩ := List.mem_filterMap.1 (List.mem_reverse.1 he)
  obtain ⟨category, -, rfl⟩ := Option.map_eq_some_iff.1 hstop
  exact Value.isParsed_ofJson stop.2

theorem isParsed_ofStops (base : α) (kind : FunctionKind) (stops : List (Json × Json)) :
    (ofStops true base kind stops).IsParsed := by
  cases kind with
  | identity => rfl
  | categorical => exact isParsed_ofCategories stops
  | exponential | interval => exact isParsed_ofNumericStops base _ _

variable {curve : Curve α} {default v : Value α}

theorem isParsed_of_atZoom? (h : curve.IsParsed) (hd : default.IsParsed) {zoom : α}
    (hv : curve.atZoom? zoom default = some v) : v.IsParsed := by
  cases curve with
  | interpolated i => exact Interpolator.isParsed_of_evaluate? h hv
  | constant value => exact Option.some.inj hv ▸ h
  | categorical outputs => exact Option.some.inj hv ▸ hd
  | identity colors => exact Option.some.inj hv ▸ hd
  | fallback => exact Option.some.inj hv ▸ hd

theorem isParsed_of_output? (h : curve.IsParsed) (hd : default.IsParsed) {input : Json}
    (hv : curve.output? input default = some v) : v.IsParsed := by
  cases curve with
  | interpolated i =>
    rw [output?] at hv
    split at hv
    · exact Interpolator.isParsed_of_evaluate? h hv
    · exact Option.some.inj hv ▸ hd
  | categorical outputs =>
    obtain rfl := Option.some.inj hv
    cases hl : (Category.ofJson? input).bind fun category => outputs.lookup category with
    | none => exact hd
    | some value =>
      obtain ⟨category, -, hlookup⟩ := Option.bind_eq_some_iff.1 hl
      obtain ⟨before, after, rfl, -⟩ := List.lookup_eq_some_iff.1 hlookup
      exact h (category, value) (by simp)
  | identity colors =>
    obtain rfl : colors = true := h
    exact Option.some.inj hv ▸ Value.isParsed_ofJson input
  | constant value => exact Option.some.inj hv ▸ h
  | fallback => exact Option.some.inj hv ▸ hd

theorem isParsed_of_lookup? (h : curve.IsParsed) (hd : default.IsParsed) {input : Option Json}
    (hv : curve.lookup? input default = some v) : v.IsParsed := by
  cases input with
  | none => exact Option.some.inj hv ▸ hd
  | some input => exact isParsed_of_output? h hd hv

end Curve

/-! ## Evaluators -/

/-- A property takes colors when its name ends so, or when its default is a color. -/
theorem takesColors_iff {name : String} {default : Option Json} :
    takesColors α name default = true ↔
      (∃ stem, name = stem ++ "-color") ∨
        ∃ s, default = some (.string s) ∧ Color.isColor α s = true := by
  have hname : (Text.before? "-color".toList name.toList).isSome = true ↔
      ∃ stem, name = stem ++ "-color" := by
    rw [Option.isSome_iff_exists]
    constructor
    · rintro ⟨stem, h⟩
      refine ⟨String.ofList stem, ?_⟩
      rw [← String.toList_inj, Text.before?_eq_some.1 h]
      simp
    · rintro ⟨stem, rfl⟩
      exact ⟨stem.toList, Text.before?_eq_some.2 String.toList_append⟩
  have hdefault : (default.bind Json.asString?).any (Color.isColor α) = true ↔
      ∃ s, default = some (.string s) ∧ Color.isColor α s = true := by
    rw [Option.any_eq_true]
    refine exists_congr fun s => and_congr_left fun _ => ?_
    match default with
    | none => simp
    | some (.string t) => simp [Json.asString?]
    | some .null | some (.bool _) | some (.number _) | some (.array _) | some (.object _) =>
      simp [Json.asString?]
  rw [takesColors, Bool.or_eq_true, hname, hdefault]

namespace Evaluator

/-- Every value that an evaluator can give is parsed. -/
def IsParsed : Evaluator α → Prop
  | constant value => value.IsParsed
  | zoom curve default => curve.IsParsed ∧ default.IsParsed
  | property _ curve default => curve.IsParsed ∧ default.IsParsed
  | zoomAndProperty _ _ curves _ default =>
    (∀ curve ∈ curves, curve.IsParsed) ∧ default.IsParsed

theorem isParsed_defaultOf (default : Option Json) : (defaultOf true default : Value α).IsParsed := by
  cases default with
  | none => simp [defaultOf, Value.IsParsed]
  | some value => exact Value.isParsed_ofJson value

theorem isParsed_functionDefault {default : Value α} (h : default.IsParsed) (own : Option Json) :
    (functionDefault true default own).IsParsed := by
  cases own with
  | none => exact h
  | some value => exact Value.isParsed_ofJson value

theorem isParsed_ofZoom {default : Value α} (h : default.IsParsed) (f : ZoomFunction) :
    (ofZoom true default f).IsParsed := by
  have hcurve := Curve.isParsed_ofNumericStops (Arith.ofDouble f.base) f.kind
    (f.stops.map fun stop => ((Arith.ofDouble stop.1 : α), stop.2))
  simp only [ofZoom]
  split
  · next value hc =>
    rw [hc] at hcurve
    exact hcurve
  · exact h
  · exact ⟨hcurve, h⟩

theorem isParsed_ofDeclaration {default : Value α} (h : default.IsParsed) (d : Declaration) :
    (ofDeclaration true default d).IsParsed := by
  cases d with
  | constant value => exact Value.isParsed_ofJson value
  | zoom f => exact isParsed_ofZoom h f
  | property f => exact ⟨Curve.isParsed_ofStops _ f.kind f.stops, isParsed_functionDefault h _⟩
  | zoomAndProperty f =>
    refine ⟨fun curve hc => ?_, isParsed_functionDefault h _⟩
    obtain ⟨stop, -, rfl⟩ := List.mem_map.1 hc
    exact Curve.isParsed_ofStops _ f.kind stop.2

variable {e : Evaluator α}

theorem isParsed_of_compile {name : String} {declared default : Option Json}
    (hc : takesColors α name default = true) (h : compile name declared default = .ok e) :
    e.IsParsed := by
  have hdefault : (defaultOf true default : Value α).IsParsed := isParsed_defaultOf default
  simp only [compile, hc] at h
  cases declared with
  | none =>
    obtain rfl := Except.ok.inj h
    exact hdefault
  | some value =>
    obtain ⟨d, -, rfl⟩ := Reading.map_eq_ok.1 h
    exact isParsed_ofDeclaration hdefault d

theorem isParsed_of_between? {output? : Nat → Option (Value α)} {zooms : List α} {scale : Scale α}
    {lower upper : Nat} {z : α} {v : Value α} (ho : ∀ k v, output? k = some v → v.IsParsed)
    (hv : between? output? zooms scale lower z upper = some v) : v.IsParsed := by
  obtain ⟨below, hbelow, hv⟩ := Option.bind_eq_some_iff.1 hv
  have hparsed := ho lower below hbelow
  cases scale with
  | step => exact Option.some.inj hv ▸ hparsed
  | linear | exponential base =>
    obtain ⟨above, -, hv⟩ := Option.bind_eq_some_iff.1 hv
    obtain ⟨a, -, hv⟩ := Option.bind_eq_some_iff.1 hv
    obtain ⟨b, -, hv⟩ := Option.bind_eq_some_iff.1 hv
    exact Option.some.inj hv ▸ hparsed.blend _ above

theorem isParsed_of_evaluate? (h : e.IsParsed) {z : α} {f : Feature} {v : Value α}
    (hv : e.evaluate? z f = some v) : v.IsParsed := by
  cases e with
  | constant value => exact Option.some.inj hv ▸ h
  | zoom curve default => exact Curve.isParsed_of_atZoom? h.1 h.2 hv
  | property name curve default => exact Curve.isParsed_of_lookup? h.1 h.2 hv
  | zoomAndProperty name zooms curves scale default =>
    obtain ⟨hcurves, hdefault⟩ := h
    have ho : ∀ (k : Nat) (v : Value α), (curves[k]?.bind fun curve =>
        curve.lookup? (f.property? name) default) = some v → v.IsParsed := by
      intro k v hk
      obtain ⟨curve, hcurve, hlookup⟩ := Option.bind_eq_some_iff.1 hk
      exact Curve.isParsed_of_lookup? (hcurves curve (List.mem_of_getElem? hcurve)) hdefault hlookup
    rw [evaluate?] at hv
    split at hv
    · exact Option.some.inj hv ▸ hdefault
    · exact ho _ v hv
    · exact isParsed_of_between? ho hv

/-- A string that a property of colors gives is no color, whatever is declared, at every zoom level
and for every feature. -/
theorem isColor_of_evaluate {name : String} {declared default : Option Json}
    (hc : (∃ stem, name = stem ++ "-color") ∨
      ∃ s, default = some (.string s) ∧ Color.isColor α s = true)
    (h : compile name declared default = .ok e) {z : α} {f : Feature} {s : String}
    (hs : e.evaluate z f = .string s) : Color.isColor α s = false := by
  have hparsed : e.IsParsed := isParsed_of_compile (takesColors_iff.2 hc) h
  cases hv : e.evaluate? z f with
  | none => simp [evaluate, hv] at hs
  | some v =>
    rw [evaluate, hv, Option.getD_some] at hs
    exact isParsed_of_evaluate? hparsed hv s hs

/-- Colors by class, one of them with a name that is none. -/
def groundColors : Json :=
  let stop (input output : Json) : Json := .array [input, output]
  .object [("default", .string "none"), ("property", .string "class"),
    ("stops", .array [
      stop (Json.natural 0) (.array [stop (.string "park") (.string "green")]),
      stop (Json.natural 10) (.array [stop (.string "park") (.string "#0f0"),
        stop (.string "lot") (.string "gray stone")])]),
    ("type", .string "categorical")]

/-- The name is kept, since it is no color, while the class of parks blends from one color to
another. -/
theorem isColor_of_evaluate_groundColors :
    let feature (value : String) : Feature :=
      { Feature.blank .polygon with properties := [("class", .string value)] }
    ∃ e : Evaluator Float, compile "fill-color" (some groundColors) none = .ok e ∧
      (e.evaluate 5 (feature "park")).asColor?.isSome = true ∧
      e.evaluate 12 (feature "lot") = .string "gray stone" ∧
      Color.isColor Float "gray stone" = false := by
  intro feature
  obtain ⟨e, he, hpark, hlot⟩ : ∃ e : Evaluator Float,
      compile "fill-color" (some groundColors) none = .ok e ∧
        (e.evaluate 5 (feature "park")).asColor?.isSome = true ∧
        e.evaluate 12 (feature "lot") = .string "gray stone" := ⟨_, rfl, rfl, rfl⟩
  exact ⟨e, he, hpark, hlot, isColor_of_evaluate (.inl ⟨"fill", rfl⟩) he hlot⟩

end Evaluator

end StyledMap
