import StyledMap.Evaluator
import StyledMap.Proofs.Curve
import StyledMap.Proofs.Declaration.Grammar
import StyledMap.Proofs.Double.Order
import StyledMap.Proofs.Evaluator.InRange

/-! # The stops of one zoom level

A function of the zoom level and a property holds a list of stops for each of its zoom levels. The
same object with one of these lists in place of its stops is a function of the property alone.

* `withStops`: that object.
* `standsAlone`: whether the list can be read on its own and keeps its kind. It does not when a
  function that interpolates has inputs that are no numbers: alone they are refused or make the
  function categorical, and inside a zoom level they are ignored.
* `evaluate_stop`: the value at a zoom level is that of its list.
* `compile_withStops`: what the two objects are read as and what they evaluate to.
-/

set_option autoImplicit false

namespace StyledMap.Declaration

open Reading

/-- A function object with other stops. -/
def withStops (members : Table Json) (stops : List (Json × Json)) : Json :=
  .object (members.insert "stops" (pairsToJson stops))

/-- Whether stops are read on their own and, as a function of the property, with a given kind. -/
def standsAlone (kind : FunctionKind) (stops : List (Json × Json)) : Bool :=
  match stops with
  | [] => true
  | (.object _, _) :: _ => stops.all fun stop => isKeyed stop.1
  | (input, output) :: _ =>
    if input.isNumber && isStopList output then
      stops.all fun stop => stop.1.isNumber && isPairs stop.2
    else kind == .categorical || stops.all fun stop => stop.1.isNumber

/-! ## Reading the object -/

variable {members : Table Json} {f : ZoomPropertyFunction}

/-- The parts of the object of a function of the zoom level and a property. -/
theorem ofMembers_zoomAndProperty (h : ofMembers members = .ok (.zoomAndProperty f)) :
    ∃ kind, baseOf members = .ok f.base ∧ kindOf members = .ok kind ∧
      propertyOf members = .ok (some f.property) ∧ kind ≠ some .identity ∧
      f.kind = kind.getD .exponential ∧ f.fallback = members.get? "default" := by
  obtain ⟨base, kind, property, stops, hb, hk, hp, -, hd⟩ := ofMembers_eq_ok.1 h
  obtain ⟨-, g, hg⟩ | ⟨name, rfl, ⟨stops, kind', hf⟩ | ⟨hkind, outer, hf⟩⟩ := ofParts_eq_ok hd
  · simp at hg
  · simp at hf
  · obtain rfl := Declaration.zoomAndProperty.inj hf
    exact ⟨kind, hb, hk, hp, hkind, rfl, rfl⟩

theorem get?_withStops {key : String} (hk : key ≠ "stops") (stops : Json) :
    (members.insert "stops" stops).get? key = members.get? key := by
  rw [Table.get?_insert, if_neg hk]

/-- How an object with other stops is read, faults included. -/
theorem ofMembers_insert_stops (members : Table Json) (stops : List (Json × Json)) :
    ofMembers (members.insert "stops" (pairsToJson stops)) = (do
      let base ← baseOf members
      let kind ← kindOf members
      let property ← propertyOf members
      match property with
      | none => ofZoomStops stops base kind
      | some property =>
        if kind = some .identity then
          return .property ⟨property, [], base, .identity, members.get? "default"⟩
        else ofPropertyStops property stops base kind (members.get? "default")) := by
  have hb : baseOf (members.insert "stops" (pairsToJson stops)) = baseOf members := by
    rw [baseOf, baseOf, get?_withStops (by decide)]
  have hk : kindOf (members.insert "stops" (pairsToJson stops)) = kindOf members := by
    rw [kindOf, kindOf, get?_withStops (by decide)]
  have hp : propertyOf (members.insert "stops" (pairsToJson stops)) = propertyOf members := by
    rw [propertyOf, propertyOf, get?_withStops (by decide)]
  have hs : stopsOf (members.insert "stops" (pairsToJson stops)) = .ok stops := by
    rw [stopsOf, Table.get?_insert, if_pos rfl]
    exact pairsOf_pairsToJson stops
  have hc : Table.contains (members.insert "stops" (pairsToJson stops)) "stops" = true := by
    rw [Table.contains, Table.get?_insert, if_pos rfl]
    rfl
  have hd : (members.insert "stops" (pairsToJson stops)).get? "default" = members.get? "default" :=
    get?_withStops (by decide) _
  rw [ofMembers, hb, hk, hp, hs, hc, hd]
  rfl

/-- With other stops the object is read by these stops alone. -/
theorem ofMembers_withStops {kind : Option FunctionKind} {base : Float} {property : String}
    (hb : baseOf members = .ok base) (hk : kindOf members = .ok kind)
    (hp : propertyOf members = .ok (some property)) (hi : kind ≠ some .identity)
    (stops : List (Json × Json)) {d : Declaration} :
    ofMembers (members.insert "stops" (pairsToJson stops)) = .ok d ↔
      ofPropertyStops property stops base kind (members.get? "default") = .ok d := by
  rw [ofMembers_insert_stops, hb, hk, hp]
  change (if kind = some .identity then _ else _) = _ ↔ _
  rw [if_neg hi]

/-- An object with other stops is read with the kind and the fallback of the object as it was. -/
theorem ofJson_withStops {name : String}
    (h : ofJson name (.object members) = .ok (.zoomAndProperty f)) :
    ∃ kind, kind ≠ some .identity ∧ f.kind = kind.getD .exponential ∧
      f.fallback = members.get? "default" ∧
      ∀ (stops : List (Json × Json)) (d : Declaration),
        ofJson name (withStops members stops) = .ok d ↔
          ofPropertyStops f.property stops f.base kind f.fallback = .ok d := by
  have hfun : isFunctionObject members = true := by
    by_contra hn
    rw [ofJson, if_neg hn] at h
    simp at h
  obtain ⟨kind, hb, hk, hp, hi, hfk, hfd⟩ := ofMembers_zoomAndProperty ((ofJson_function hfun).1 h)
  refine ⟨kind, hi, hfk, hfd, fun stops d => ?_⟩
  have hfun' : isFunctionObject (members.insert "stops" (pairsToJson stops)) = true := by
    rw [isFunctionObject, Table.contains, Table.get?_insert, if_pos rfl]
    rfl
  rw [withStops, ofJson_function hfun', ofMembers_withStops hb hk hp hi, hfd]

/-! ## Stops that stand alone -/

theorem eq_or_isNumeric_of_ne_identity {kind : FunctionKind} (h : kind ≠ .identity) :
    kind = .categorical ∨ kind.isNumeric = true := by
  cases kind <;> simp_all [FunctionKind.isNumeric]

section

variable {property : String} {stops : List (Json × Json)} {base : Float}
  {kind : Option FunctionKind} {fallback : Option Json}

theorem standsAlone_cons {kind : FunctionKind} {input output : Json}
    (ho : input.asMembers? = none) :
    standsAlone kind ((input, output) :: stops) =
      if input.isNumber && isStopList output then
        ((input, output) :: stops).all fun stop => stop.1.isNumber && isPairs stop.2
      else kind == .categorical || ((input, output) :: stops).all fun stop => stop.1.isNumber := by
  cases input with
  | object members => simp [Json.asMembers?] at ho
  | _ => rfl

theorem standsAlone_of_not_number {input output : Json} (ho : input.asMembers? = none)
    (hn : input.isNumber = false) :
    standsAlone .exponential ((input, output) :: stops) = false := by
  rw [standsAlone_cons ho]
  simp [hn]

/-- A function of the property alone has the stops as they stand. Its kind is another one only when
none is declared and the first input is no number. -/
theorem ofPropertyStops_property (hi : kind ≠ some .identity) {g : PropertyFunction}
    (h : ofPropertyStops property stops base kind fallback = .ok (.property g)) :
    g = ⟨property, stops, base, g.kind, fallback⟩ ∧
      (g.kind = kind.getD .exponential ∨
        kind = none ∧ g.kind = .categorical ∧ standsAlone .exponential stops = false) := by
  cases stopsForm stops with
  | empty =>
    obtain rfl : _ = g := by simpa [ofPropertyStops] using h
    exact ⟨rfl, .inl rfl⟩
  | keyed members output stops =>
    obtain ⟨outer, -, hd⟩ := ofPropertyStops_keyed.1 h
    simp at hd
  | nested stops ho hn =>
    obtain ⟨outer, -, hd⟩ := (ofPropertyStops_nested ho hn).1 h
    simp at hd
  | @flat input output stops ho hn =>
    obtain ⟨-, hd⟩ := (ofPropertyStops_flat ho hn).1 h
    obtain rfl := Declaration.property.inj hd
    refine ⟨rfl, ?_⟩
    cases kind with
    | some kind => exact .inl rfl
    | none =>
      cases hnum : input.isNumber with
      | true => exact .inl (by simp [impliedKind, hnum])
      | false => exact .inr ⟨rfl, by simp [impliedKind, hnum], standsAlone_of_not_number ho hnum⟩

/-- Flat stops keep the kind that they have inside a zoom level when it looks inputs up or all
inputs are numbers. -/
theorem keepsKind_iff (hi : kind ≠ some .identity) {input output : Json} :
    (((kind.getD (impliedKind input)).isNumeric = true →
        ((input, output) :: stops).all (fun stop => stop.1.isNumber) = true) ∧
      kind.getD (impliedKind input) = kind.getD .exponential) ↔
    (kind.getD .exponential == .categorical ||
      ((input, output) :: stops).all fun stop => stop.1.isNumber) = true := by
  rw [Bool.or_eq_true, beq_iff_eq]
  cases kind with
  | some kind =>
    rw [Option.getD_some, Option.getD_some]
    have hne : kind ≠ .identity := fun h => hi (congrArg some h)
    rcases eq_or_isNumeric_of_ne_identity hne with rfl | hk
    · simp [FunctionKind.isNumeric]
    · rw [hk]
      cases kind <;> simp [FunctionKind.isNumeric] at hk ⊢
  | none =>
    rw [Option.getD_none, Option.getD_none, List.all_cons]
    cases hnum : input.isNumber <;> simp [impliedKind, hnum, FunctionKind.isNumeric]

/-- Stops stand alone exactly when they are read and keep the kind. -/
theorem standsAlone_iff (hi : kind ≠ some .identity) :
    standsAlone (kind.getD .exponential) stops = true ↔
      ∃ d, ofPropertyStops property stops base kind fallback = .ok d ∧
        ∀ g, d = .property g → g.kind = kind.getD .exponential := by
  cases stopsForm stops with
  | empty =>
    refine iff_of_true rfl ⟨_, rfl, ?_⟩
    rintro g hg
    rw [← Declaration.property.inj hg]
  | keyed members output stops =>
    rw [standsAlone, ← groupByZoom_isOk]
    constructor
    · rintro ⟨outer, h⟩
      exact ⟨_, ofPropertyStops_keyed.2 ⟨outer, h, rfl⟩, by simp⟩
    · rintro ⟨d, h, -⟩
      obtain ⟨outer, h, -⟩ := ofPropertyStops_keyed.1 h
      exact ⟨outer, h⟩
  | nested stops ho hn =>
    rw [standsAlone_cons ho, if_pos hn, ← nestedStops_isOk]
    constructor
    · rintro ⟨outer, h⟩
      exact ⟨_, (ofPropertyStops_nested ho hn).2 ⟨outer, h, rfl⟩, by simp⟩
    · rintro ⟨d, h, -⟩
      obtain ⟨outer, h, -⟩ := (ofPropertyStops_nested ho hn).1 h
      exact ⟨outer, h⟩
  | flat stops ho hn =>
    rw [standsAlone_cons ho, if_neg (by simp [hn]), ← keepsKind_iff hi]
    constructor
    · rintro ⟨hall, hkind⟩
      refine ⟨_, (ofPropertyStops_flat ho hn).2 ⟨hall, rfl⟩, ?_⟩
      rintro g hg
      rw [← Declaration.property.inj hg]
      exact hkind
    · rintro ⟨d, h, hg⟩
      obtain ⟨hall, rfl⟩ := (ofPropertyStops_flat ho hn).1 h
      exact ⟨hall, hg _ rfl⟩

end

end StyledMap.Declaration

namespace StyledMap.Evaluator

open Declaration Reading

/-! ## The value at a zoom level -/

variable {α : Type} [Arith α]

/-- The value that a list of stops gives a feature, as the stops of a zoom level of a function. -/
def levelValue (colors : Bool) (default : Value α) (f : ZoomPropertyFunction)
    (stops : List (Json × Json)) (feature : Feature) : Value α :=
  (Curve.ofStops colors (Arith.ofDouble f.base) f.kind stops).lookup
    (feature.property? f.property) (functionDefault colors default f.fallback)

/-- At the zoom level of its stop `lower` a function measures position zero on the way to the next
stop, and for a feature blends the two values there to the lower one. -/
def LowerStopCounts (colors : Bool) (default : Value α) (f : ZoomPropertyFunction)
    (lower upper : Float × List (Json × Json)) (feature : Feature) : Prop :=
  (zoomScale f.kind (Arith.ofDouble f.base : α)).position (Arith.ofDouble lower.1)
      (Arith.ofDouble lower.1) (Arith.ofDouble upper.1) = Arith.zero ∧
    (levelValue colors default f lower.2 feature).blend Arith.zero
      (levelValue colors default f upper.2 feature) = levelValue colors default f lower.2 feature

section

variable {output? : Nat → Option (Value α)} {zooms : List α} {scale : Scale α}
  {lower upper : Nat} {below above : Value α} {z a b : α}

theorem between?_step (hl : output? lower = some below) :
    between? output? zooms .step lower z upper = some below := by
  rw [between?, hl]
  rfl

theorem between?_blend (hs : scale ≠ .step) (hl : output? lower = some below)
    (hu : output? upper = some above) (ha : zooms[lower]? = some a) (hb : zooms[upper]? = some b) :
    between? output? zooms scale lower z upper =
      some (below.blend (scale.position a z b) above) := by
  rw [between?, hl, hu, ha, hb]
  cases scale with
  | step => exact absurd rfl hs
  | linear => rfl
  | exponential base => rfl

/-- Between two zoom levels the lower value counts, where the position is zero and blending at zero
keeps the lower value. -/
theorem between?_lower (hl : output? lower = some below) (hu : output? upper = some above)
    (ha : zooms[lower]? = some a) (hb : zooms[upper]? = some b)
    (hp : scale.position a z b = Arith.zero) (hv : below.blend Arith.zero above = below) :
    between? output? zooms scale lower z upper = some below := by
  by_cases hs : scale = .step
  · rw [hs, between?_step hl]
  · rw [between?_blend hs hl hu ha hb, hp, hv]

/-- Between two zoom levels of one value this value counts, if it stays itself where it blends. -/
theorem between?_same (hl : output? lower = some below)
    (hu : scale ≠ .step → output? upper = some below) (ha : zooms[lower]? = some a)
    (hb : zooms[upper]? = some b)
    (hv : scale ≠ .step → below.blend (scale.position a z b) below = below) :
    between? output? zooms scale lower z upper = some below := by
  by_cases hs : scale = .step
  · rw [hs, between?_step hl]
  · rw [between?_blend hs hl (hu hs) ha hb, hv hs]

end

/-- The zoom levels of a function are increasing. -/
def IncreasingLevels (α : Type) [Arith α] (f : ZoomPropertyFunction) : Prop :=
  Increasing (f.stops.map fun stop => ((Arith.ofDouble stop.1 : α), stop.2))

variable {f : ZoomPropertyFunction} {colors : Bool} {default : Value α} {feature : Feature}

/-- The curves of a function, which are read by index, give the values of its levels. -/
theorem levelOutput?_eq {k : Nat} {level : Float × List (Json × Json)}
    (hk : f.stops[k]? = some level) :
    ((f.stops.map fun s => Curve.ofStops colors (Arith.ofDouble f.base : α) f.kind s.2)[k]?.bind
      fun curve => curve.lookup? (feature.property? f.property)
        (functionDefault colors default f.fallback)) =
      some (levelValue colors default f level.2 feature) := by
  rw [List.getElem?_map, hk, Option.map_some, Option.bind_some]
  exact Curve.lookup?_eq_some (Curve.isSound_ofStops _ _ _ _) _ _

theorem evaluate_stop [Std.Asymm (fun x y : α => x < y)] (hz : IncreasingLevels α f) {i : Nat}
    {stop : Float × List (Json × Json)} (hi : f.stops[i]? = some stop)
    (hb : ∀ upper, f.stops[i + 1]? = some upper →
      LowerStopCounts colors default f stop upper feature) :
    (ofZoomAndProperty colors default f).evaluate (Arith.ofDouble stop.1) feature =
      levelValue colors default f stop.2 feature := by
  let zooms : List α := f.stops.map fun s => Arith.ofDouble s.1
  have hinc : zooms.Pairwise (· < ·) := by
    rw [IncreasingLevels, Increasing, List.pairwise_map] at hz
    rw [List.pairwise_map]
    exact hz
  have hzoom {k : Nat} {s : Float × List (Json × Json)} (hk : f.stops[k]? = some s) :
      zooms[k]? = some (Arith.ofDouble s.1) := by
    rw [List.getElem?_map, hk, Option.map_some]
  have hl : locate? (Arith.ofDouble stop.1 : α) zooms = some (placeOf i zooms.length) :=
    locate?_of_getElem? hinc (hzoom hi)
  suffices h : (ofZoomAndProperty colors default f).evaluate? (Arith.ofDouble stop.1) feature =
      some (levelValue colors default f stop.2 feature) by
    rw [evaluate, h, Option.getD_some]
  simp only [ofZoomAndProperty, evaluate?]
  rw [hl, placeOf]
  by_cases hlast : i + 1 < zooms.length
  · rw [if_pos hlast]
    have hlast' : i + 1 < f.stops.length := by simpa [zooms] using hlast
    have hn : f.stops[i + 1]? = some f.stops[i + 1] := List.getElem?_eq_getElem hlast'
    obtain ⟨hposition, hblend⟩ := hb _ hn
    exact between?_lower (levelOutput?_eq hi) (levelOutput?_eq hn) (hzoom hi) (hzoom hn) hposition
      hblend
  · rw [if_neg hlast]
    exact levelOutput?_eq hi

/-- A function that interpolates has no output for a feature value that is no number, unless it is
the constant of a single numeric stop. -/
theorem levelValue_of_not_number {stops : List (Json × Json)} (hk : f.kind = .exponential)
    (hc : stops.countP (fun stop => stop.1.isNumber) ≠ 1)
    (hv : ∀ v ∈ feature.property? f.property, v.isNumber = false) :
    levelValue colors default f stops feature = functionDefault colors default f.fallback := by
  have hnumeric : f.kind.isNumeric = true := by
    rw [hk]
    rfl
  rw [levelValue, Curve.lookup_of_not_number hnumeric hv]
  exact Curve.substitute_eq_default (.inr (Curve.onlyOutput?_eq_none hc))

/-- The object with the stops of one zoom level is read and keeps the kind of the function exactly
when these stops stand alone, and then it gives every feature the value that the function gives at
that level. When they do not, it looks inputs up, and the function ignores inputs that are no
numbers. -/
theorem compile_withStops [Std.Asymm (fun x y : α => x < y)] {name : String}
    {members : Table Json} (hf : ofJson name (.object members) = .ok (.zoomAndProperty f))
    (hz : IncreasingLevels α f) {i : Nat} {stop : Float × List (Json × Json)}
    (hi : f.stops[i]? = some stop) :
    (standsAlone f.kind stop.2 = true ↔
      ∃ d, ofJson name (withStops members stop.2) = .ok d ∧
        ∀ g, d = .property g → g.kind = f.kind) ∧
    ∀ g, ofJson name (withStops members stop.2) = .ok (.property g) →
      ∀ (default : Option Json) (feature : Feature),
        let colors := takesColors α name default
        (∀ upper, f.stops[i + 1]? = some upper →
          LowerStopCounts colors (defaultOf colors default : Value α) f stop upper feature) →
        ∃ plain nested : Evaluator α,
          compile name (some (withStops members stop.2)) default = .ok plain ∧
          compile name (some (.object members)) default = .ok nested ∧
          (standsAlone f.kind stop.2 = true → ∀ zoom,
            plain.evaluate zoom feature = nested.evaluate (Arith.ofDouble stop.1) feature) ∧
          (standsAlone f.kind stop.2 = false → f.kind = .exponential ∧ g.kind = .categorical ∧
            (stop.2.countP (fun s => s.1.isNumber) ≠ 1 →
              (∀ v ∈ feature.property? f.property, v.isNumber = false) →
              nested.evaluate (Arith.ofDouble stop.1) feature =
                functionDefault colors (defaultOf colors default) (members.get? "default"))) := by
  obtain ⟨kind, hid, hfk, hfd, hplain⟩ := ofJson_withStops hf
  have hstands : standsAlone f.kind stop.2 = true ↔
      ∃ d, ofJson name (withStops members stop.2) = .ok d ∧
        ∀ g, d = .property g → g.kind = f.kind := by
    simp only [hplain, hfk]
    exact standsAlone_iff hid
  refine ⟨hstands, ?_⟩
  intro g hg default feature colors hlow
  obtain ⟨hgf, hgk⟩ := ofPropertyStops_property hid ((hplain _ _).1 hg)
  have hsame : standsAlone f.kind stop.2 = true ↔ g.kind = f.kind := by
    rw [hstands]
    constructor
    · rintro ⟨d, hd, h⟩
      exact h g (Except.ok.inj (hd.symm.trans hg))
    · intro h
      refine ⟨_, hg, ?_⟩
      rintro g' hg'
      rw [← Declaration.property.inj hg', h]
  refine ⟨_, _, map_eq_ok.2 ⟨_, hg, rfl⟩, map_eq_ok.2 ⟨_, hf, rfl⟩, ?_, ?_⟩
  · intro hs zoom
    rw [ofDeclaration, ofDeclaration, evaluate_stop hz hi hlow, hgf, levelValue, ← hsame.1 hs]
    rfl
  · intro hs
    have hne : g.kind ≠ f.kind := fun h => by simp [hsame.2 h] at hs
    obtain ⟨rfl, hcat, -⟩ := hgk.resolve_left (hfk ▸ hne)
    refine ⟨hfk, hcat, fun hc hv => ?_⟩
    rw [ofDeclaration, evaluate_stop hz hi hlow, levelValue_of_not_number hfk hc hv, hfd]

/-! ## Two functions -/

/-- The stops from `(0, 0)` to `(10, top)`. -/
def ramp (top : UInt64) : List (Json × Json) :=
  [(.number (.natural 0), .number (.natural 0)), (.number (.natural 10), .number (.natural top))]

/-- The single stop of the text `park`. -/
def parkStop (output : UInt64) : List (Json × Json) :=
  [(.string "park", .number (.natural output))]

/-- A function object with stops at the zoom levels zero and ten. -/
def twoLevels (property : String) (first second : List (Json × Json)) : Table Json :=
  [("property", .string property), ("stops", pairsToJson
    [(.number (.natural 0), pairsToJson first), (.number (.natural 10), pairsToJson second)])]

/-- The function of such an object without a type. -/
def twoLevelFunction (property : String) (first second : List (Json × Json)) :
    ZoomPropertyFunction :=
  ⟨property, [(0, first), (10, second)], 1.0, .exponential, none⟩

def pointWith (property : String) (value : Json) : Feature :=
  { Feature.blank .point with properties := [(property, value)] }

theorem lowerStopCounts_ramp :
    LowerStopCounts false (.null : Value Float)
      (twoLevelFunction "rank" (ramp 10) (ramp 110)) (0, ramp 10) (10, ramp 110)
      (pointWith "rank" (.number (.natural 5))) := by
  have hlow : levelValue false (.null : Value Float) (twoLevelFunction "rank" (ramp 10) (ramp 110))
      (ramp 10) (pointWith "rank" (.number (.natural 5))) = .number 5 := by rfl
  have hup : levelValue false (.null : Value Float) (twoLevelFunction "rank" (ramp 10) (ramp 110))
      (ramp 110) (pointWith "rank" (.number (.natural 5))) = .number 55 := by rfl
  refine ⟨by rfl, ?_⟩
  rw [hlow, hup]
  rfl

/-- A function of which every list of stops stands alone, at the first of its levels. -/
theorem compile_withStops_ramp :
    standsAlone .exponential (ramp 10) = true ∧
      ∃ plain nested : Evaluator Float,
        compile "circle-radius" (some (withStops (twoLevels "rank" (ramp 10) (ramp 110)) (ramp 10)))
          none = .ok plain ∧
        compile "circle-radius" (some (.object (twoLevels "rank" (ramp 10) (ramp 110)))) none =
          .ok nested ∧
        ∀ zoom, plain.evaluate zoom (pointWith "rank" (.number (.natural 5))) =
          nested.evaluate 0 (pointWith "rank" (.number (.natural 5))) := by
  have hf : ofJson "circle-radius" (.object (twoLevels "rank" (ramp 10) (ramp 110))) =
      .ok (.zoomAndProperty (twoLevelFunction "rank" (ramp 10) (ramp 110))) := rfl
  have hz : IncreasingLevels Float (twoLevelFunction "rank" (ramp 10) (ramp 110)) := by
    refine .cons ?_ (.cons ?_ .nil) <;> decide
  have hi : (twoLevelFunction "rank" (ramp 10) (ramp 110)).stops[0]? = some (0, ramp 10) := rfl
  have hs : standsAlone .exponential (ramp 10) = true := by decide
  obtain ⟨-, h⟩ := compile_withStops hf hz hi
  obtain ⟨plain, nested, hp, hn, heq, -⟩ := h ⟨"rank", ramp 10, 1.0, .exponential, none⟩ rfl none
    (pointWith "rank" (.number (.natural 5))) (by
      rintro upper hu
      obtain rfl : (10, ramp 110) = upper := Option.some.inj hu
      exact lowerStopCounts_ramp)
  exact ⟨hs, plain, nested, hp, hn, heq hs⟩

/-- A function of which no list of stops stands alone: it gives the fallback where the stops of its
first level give a number. -/
theorem compile_withStops_park :
    ofJson "circle-radius" (.object (twoLevels "class" (parkStop 1) (parkStop 5))) =
      .ok (.zoomAndProperty (twoLevelFunction "class" (parkStop 1) (parkStop 5))) ∧
    ofJson "circle-radius" (withStops (twoLevels "class" (parkStop 1) (parkStop 5)) (parkStop 1)) =
      .ok (.property ⟨"class", parkStop 1, 1.0, .categorical, none⟩) ∧
    ∃ plain nested : Evaluator Float,
      compile "circle-radius"
        (some (withStops (twoLevels "class" (parkStop 1) (parkStop 5)) (parkStop 1))) none =
          .ok plain ∧
      compile "circle-radius" (some (.object (twoLevels "class" (parkStop 1) (parkStop 5)))) none =
        .ok nested ∧
      plain.evaluate 0 (pointWith "class" (.string "park")) = .number 1 ∧
      nested.evaluate 0 (pointWith "class" (.string "park")) = .null :=
  ⟨rfl, rfl, _, _, rfl, rfl, rfl, rfl⟩

end StyledMap.Evaluator
