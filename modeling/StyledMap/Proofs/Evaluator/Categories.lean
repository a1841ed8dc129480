import StyledMap.Proofs.Declaration.Acceptance
import StyledMap.Proofs.Declaration.PlainStops
import StyledMap.Proofs.Evaluator.Fallback
import StyledMap.Proofs.Fields
import StyledMap.Proofs.Selector.Membership

/-! # Categories and equality tests

A categorical function looks the value of a feature up among the keys of its stops, and a filter
compares the two with an equality test. Both read the value and the key on their own, the one into
bits and the other into a double, and they agree.

* `Category.ofJson?_eq_iff`: two values have one category exactly when they are equal and have any.
* `Evaluator.Matches`: a key is that of a category, and the equality test with it selects a feature.
* `Curve.output?_ofCategories_append`: the last stop of a category counts.
* `Evaluator.evaluate?_categorical`: a categorical function gives the output of the last stop that
  matches, or else its fallback.
-/

set_option autoImplicit false

namespace StyledMap

/-! ## Categories -/

/-- A value is a string, a number or a truth value. -/
def Json.IsCategory (v : Json) : Prop :=
  v.IsString ∨ v.IsNumber ∨ v.IsBool

namespace Category

variable {key v : Json}

theorem exists_ofJson? : (∃ category, ofJson? v = some category) ↔ v.IsCategory := by
  cases v <;> simp [ofJson?, Json.IsCategory, Json.IsString, Json.IsNumber, Json.IsBool]

/-- A value has the category of a key exactly when it equals the key. Only numbers take an argument:
a key that is proper is a number, and then equality of doubles is equality of the bits that tell
categories apart. -/
theorem ofJson?_eq_iff (hp : key.isProper = true) (hk : key.IsCategory) :
    ofJson? v = ofJson? key ↔ Expression.equals v key = true := by
  cases key with
  | number n =>
    cases v with
    | number m =>
      have hn : n.toFloat.isNaN = false := Number.isNaN_toFloat hp
      simp only [ofJson?, Expression.equals, Option.some.injEq, Category.number.injEq]
      rw [Double.beq_comm, Double.beq_iff_valueBits_eq hn, eq_comm]
    | _ => simp [ofJson?, Expression.equals]
  | string s => cases v <;> simp [ofJson?, Expression.equals]
  | bool b => cases v <;> simp [ofJson?, Expression.equals]
  | _ => simp [Json.IsCategory, Json.IsString, Json.IsNumber, Json.IsBool] at hk

end Category

/-! ## Curves -/

namespace Curve

variable {α : Type} [Arith α] {colors : Bool} {default : Value α} {input : Json}
  {before after stops : List (Json × Json)} {stop : Json × Json}

/-- The entries of a curve that looks inputs up, in the order of their stops. -/
def entries (colors : Bool) (stops : List (Json × Json)) : List (Category × Value α) :=
  stops.filterMap fun stop =>
    (Category.ofJson? stop.1).map fun category => (category, Value.ofJson colors stop.2)

theorem ofCategories_eq (colors : Bool) (stops : List (Json × Json)) :
    (ofCategories colors stops : Curve α) = categorical (entries colors stops).reverse := rfl

theorem lookup_entries_eq_none {category : Category}
    (h : ∀ stop ∈ stops, Category.ofJson? stop.1 ≠ some category) :
    (entries colors stops : List (Category × Value α)).reverse.lookup category = none := by
  refine List.lookup_eq_none_iff.2 fun entry he => bne_iff_ne.2 ?_
  rintro rfl
  obtain ⟨stop, hs, hm⟩ := List.mem_filterMap.1 (List.mem_reverse.1 he)
  obtain ⟨found, hfound, rfl⟩ := Option.map_eq_some_iff.1 hm
  exact h stop hs hfound

/-- The last stop of a category counts. -/
theorem output?_ofCategories_append {category : Category}
    (hi : Category.ofJson? input = some category) (hs : Category.ofJson? stop.1 = some category)
    (ha : ∀ later ∈ after, Category.ofJson? later.1 ≠ some category) :
    (ofCategories colors (before ++ stop :: after)).output? input default =
      some (Value.ofJson colors stop.2) := by
  have hentries : (entries colors (before ++ stop :: after) : List (Category × Value α)) =
      entries colors before ++ (category, Value.ofJson colors stop.2) :: entries colors after := by
    rw [entries, List.filterMap_append, List.filterMap_cons, hs]
    rfl
  have hlookup : (entries colors (before ++ stop :: after)).reverse.lookup category =
      some (Value.ofJson colors stop.2 : Value α) := by
    rw [hentries, List.reverse_append, List.reverse_cons, List.append_assoc, List.lookup_append,
      lookup_entries_eq_none ha, Option.none_or]
    simp
  rw [ofCategories_eq, output?, hi, Option.bind_some, hlookup, Option.getD_some]

theorem output?_ofCategories_eq_default
    (h : ∀ category, Category.ofJson? input = some category →
      ∀ stop ∈ stops, Category.ofJson? stop.1 ≠ some category) :
    (ofCategories colors stops).output? input default = some default := by
  rw [ofCategories_eq, output?]
  cases hi : Category.ofJson? input with
  | none => rfl
  | some category => rw [Option.bind_some, lookup_entries_eq_none (h category hi), Option.getD_none]

end Curve

/-! ## Declared functions -/

/-- The inputs of a function of a property stand in the value that declares it. -/
theorem Declaration.isProper_of_mem_function {name : String} {raw : Json} {f : PropertyFunction}
    (hp : raw.isProper = true) (h : ofJson name raw = .ok (.property f)) :
    ∀ stop ∈ f.stops, stop.1.isProper = true := by
  cases (ofJson_eq_ok_iff name hp).1 h with
  | function _ hparts hm =>
    cases hm with
    | identity => simp
    | empty => simp
    | flat => exact isProper_of_mem_stops hp (hparts.stops.resolve_left (by simp))

namespace Evaluator

variable {α : Type} [Arith α]

/-- A key of a stop is that of a category, and the equality test with it selects a feature. -/
def Matches (property : String) (feature : Feature) (key : Json) : Prop :=
  key.IsCategory ∧
    Expression.selects? (Expression.test "==" property [key]) feature = some true

theorem matches_iff {property : String} {feature : Feature} {key : Json}
    (htype : property ≠ "$type") (hid : property ≠ "$id") (hp : key.isProper = true) :
    Matches property feature key ↔ key.IsCategory ∧
      ∃ v, feature.property? property = some v ∧ Category.ofJson? v = Category.ofJson? key := by
  refine and_congr_right fun hk => ?_
  have hl : Expression.isLiteral key = true := by
    rw [Expression.isLiteral, hp, Bool.and_true]
    obtain ⟨s, rfl⟩ | ⟨n, rfl⟩ | ⟨b, rfl⟩ := hk <;> rfl
  have hv : Expression.valueOf? feature property = feature.property? property := by
    rw [Expression.valueOf?, if_neg htype, if_neg hid]
  rw [Expression.selects?_equal property hl, hv, Option.some.injEq]
  cases hf : feature.property? property with
  | none => simp
  | some v => simp [Category.ofJson?_eq_iff hp hk]

section

variable {f : PropertyFunction} {colors : Bool} {default : Value α} {feature : Feature} {z : α}

theorem ofProperty_categorical (hk : f.kind = .categorical) (colors : Bool) (default : Value α) :
    ofProperty colors default f =
      property f.property (Curve.ofCategories colors f.stops)
        (functionDefault colors default f.fallback) := by
  rw [ofProperty, hk]
  rfl

theorem evaluate?_of_last_match (hk : f.kind = .categorical) (htype : f.property ≠ "$type")
    (hid : f.property ≠ "$id") (hproper : ∀ stop ∈ f.stops, stop.1.isProper = true)
    {before after : List (Json × Json)} {stop : Json × Json}
    (hstops : f.stops = before ++ stop :: after) (hmatch : Matches f.property feature stop.1)
    (hlater : ∀ later ∈ after, ¬ Matches f.property feature later.1) :
    (ofProperty colors default f).evaluate? z feature = some (Value.ofJson colors stop.2) := by
  have hmem : stop ∈ f.stops := by simp [hstops]
  obtain ⟨hcategory, v, hv, heq⟩ := (matches_iff htype hid (hproper stop hmem)).1 hmatch
  obtain ⟨category, hkey⟩ := Category.exists_ofJson?.2 hcategory
  rw [ofProperty_categorical hk, evaluate?, hv, hstops]
  refine Curve.output?_ofCategories_append (heq.trans hkey) hkey fun later hl hsame => ?_
  have hin : later ∈ f.stops := by simp [hstops, hl]
  refine hlater later hl ((matches_iff htype hid (hproper later hin)).2 ⟨?_, v, hv, ?_⟩)
  · exact Category.exists_ofJson?.1 ⟨category, hsame⟩
  · rw [heq, hkey, hsame]

theorem evaluate?_of_no_match (hk : f.kind = .categorical) (htype : f.property ≠ "$type")
    (hid : f.property ≠ "$id") (hproper : ∀ stop ∈ f.stops, stop.1.isProper = true)
    (hno : ∀ stop ∈ f.stops, ¬ Matches f.property feature stop.1) :
    (ofProperty colors default f).evaluate? z feature =
      some (functionDefault colors default f.fallback) := by
  rw [ofProperty_categorical hk, evaluate?]
  cases hv : feature.property? f.property with
  | none => rfl
  | some v =>
    refine Curve.output?_ofCategories_eq_default fun category hc stop hs hkey => ?_
    refine hno stop hs ((matches_iff htype hid (hproper stop hs)).2 ⟨?_, v, hv, ?_⟩)
    · exact Category.exists_ofJson?.1 ⟨category, hkey⟩
    · exact hc.trans hkey.symm

/-- A value of no category matches no key. -/
theorem not_matches {property : String} {key : Json} (htype : property ≠ "$type")
    (hid : property ≠ "$id") (hp : key.isProper = true)
    (hno : ∀ v ∈ feature.property? property, ¬ v.IsCategory) :
    ¬ Matches property feature key := by
  intro hmatch
  obtain ⟨hcategory, v, hv, heq⟩ := (matches_iff htype hid hp).1 hmatch
  obtain ⟨category, hkey⟩ := Category.exists_ofJson?.2 hcategory
  exact hno v hv (Category.exists_ofJson?.1 ⟨category, heq.trans hkey⟩)

end

/-- A categorical function of a property gives the output of the last stop whose key is a string, a
number or a truth value and equals the value of the feature, as a filter decides it. Where no stop
does it gives its own default, or else that of the property, and so it does for a feature without
the property, and for one with `null`, an array or an object there. -/
theorem evaluate?_categorical {name : String} {raw : Json} {f : PropertyFunction}
    (hp : raw.isProper = true) (h : Declaration.ofJson name raw = .ok (.property f))
    (hk : f.kind = .categorical) (htype : f.property ≠ "$type") (hid : f.property ≠ "$id")
    (default : Option Json) :
    let colors := takesColors α name default
    let fallback : Value α := defaultOf colors (f.fallback.or default)
    ∃ e : Evaluator α, compile name (some raw) default = .ok e ∧
      ∀ (z : α) (feature : Feature),
        (∀ before stop after, f.stops = before ++ stop :: after →
          Matches f.property feature stop.1 →
          (∀ later ∈ after, ¬ Matches f.property feature later.1) →
          e.evaluate? z feature = some (Value.ofJson colors stop.2)) ∧
        ((∀ stop ∈ f.stops, ¬ Matches f.property feature stop.1) →
          e.evaluate? z feature = some fallback) ∧
        ((∀ v ∈ feature.property? f.property, ¬ v.IsCategory) →
          e.evaluate? z feature = some fallback) := by
  intro colors fallback
  have hproper := Declaration.isProper_of_mem_function hp h
  have hnone (z : α) (feature : Feature)
      (hno : ∀ stop ∈ f.stops, ¬ Matches f.property feature stop.1) :
      (ofProperty colors (defaultOf colors default) f).evaluate? z feature = some fallback := by
    rw [evaluate?_of_no_match hk htype hid hproper hno, functionDefault_eq]
  refine ⟨_, Reading.map_eq_ok.2 ⟨_, h, rfl⟩, fun z feature => ⟨?_, hnone z feature, ?_⟩⟩
  · intro before stop after hstops hmatch hlater
    exact evaluate?_of_last_match hk htype hid hproper hstops hmatch hlater
  · intro hno
    exact hnone z feature fun stop hs => not_matches htype hid (hproper stop hs) hno

/-! ### Ranks

Both zeros and the double seven are keys, and one key is of no category. -/

def rankStops : List (Json × Json) :=
  [(Json.natural 0, .string "none"), (.number (.double 7.0), .string "seven"),
    (.number (.double (-0.0)), .string "zero"), (.null, .string "null"),
    (.string "0", .string "text")]

def ranks : Json :=
  .object [("default", .string "other"), ("property", .string "rank"),
    ("stops", Declaration.pairsToJson rankStops), ("type", .string "categorical")]

/-- A zero is looked up as any other, and the last of two stops with a zero counts; a whole number
is looked up as a double. -/
theorem evaluate?_categorical_ranks :
    ∃ e : Evaluator Float, compile "text-field" (some ranks) none = .ok e ∧
      e.evaluate? 3 (pointWith "rank" (.number (.double 0.0))) = some (.string "zero") ∧
      e.evaluate? 3 (pointWith "rank" (Json.natural 7)) = some (.string "seven") ∧
      e.evaluate? 3 (pointWith "rank" (.bool false)) = some (.string "other") ∧
      e.evaluate? 3 (pointWith "rank" .null) = some (.string "other") := by
  have hf : Declaration.ofJson "text-field" ranks = .ok (.property
      ⟨"rank", rankStops, 1.0, .categorical, some (.string "other")⟩) := rfl
  obtain ⟨e, he, h⟩ := evaluate?_categorical (α := Float) (by decide) hf rfl
    (show "rank" ≠ "$type" by decide) (show "rank" ≠ "$id" by decide) none
  have hmiss {stops : List (Json × Json)} {v : Json} (hs : ∀ stop ∈ stops,
      Expression.selects? (Expression.test "==" "rank" [stop.1]) (pointWith "rank" v) ≠ some true) :
      ∀ stop ∈ stops, ¬ Matches "rank" (pointWith "rank" v) stop.1 :=
    fun stop hstop hm => hs stop hstop hm.2
  have hhit {x : Float} {v : Json} (hx : Expression.selects?
      (Expression.test "==" "rank" [.number (.double x)]) (pointWith "rank" v) = some true) :
      Matches "rank" (pointWith "rank" v) (.number (.double x)) := ⟨.inr (.inl ⟨_, rfl⟩), hx⟩
  refine ⟨e, he, ?_, ?_, ?_, ?_⟩
  · exact (h 3 _).1 (rankStops.take 2) _ (rankStops.drop 3) rfl (hhit (by decide))
      (hmiss (by decide))
  · exact (h 3 _).1 (rankStops.take 1) _ (rankStops.drop 2) rfl (hhit (by decide))
      (hmiss (by decide))
  · exact (h 3 _).2.1 (hmiss (by decide))
  · refine (h 3 _).2.2 ?_
    rintro _ ⟨⟩
    simp [Json.IsCategory, Json.IsString, Json.IsNumber, Json.IsBool]

end Evaluator

end StyledMap
