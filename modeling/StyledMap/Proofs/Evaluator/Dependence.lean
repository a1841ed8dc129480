import StyledMap.Evaluator
import StyledMap.Proofs.Declaration.Grammar

/-! # What evaluators depend on

An evaluator reads the zoom level and one property of the feature at the most. Renderers keep the
value of an evaluator as long as nothing that it depends on changes.

* `property?` is the feature property that a declaration or an evaluator reads, and
  `Declaration.propertyNamed?` the one that the text of a declared value names.
* `Declaration.property?_of_ofJson` and `Evaluator.property?_of_compile`: they are the same.
* `Evaluator.evaluate_congr` and `Evaluator.evaluate_zoom_congr`: a feature counts by the property
  that is read, and the zoom level only where an evaluator depends on it.
* `Evaluator.evaluate_of_agrees`: the name of a kind says what the value depends on.
* `Evaluator.evaluate_eq_of_compile`: what can change the value of a compiled property.
-/

set_option autoImplicit false

namespace StyledMap

/-! ## Declarations -/

namespace Declaration

open Reading

/-- The feature property that a declaration reads. -/
def property? : Declaration → Option String
  | constant _ | zoom _ => none
  | property f => some f.property
  | zoomAndProperty f => some f.property

/-- The text that a declared value has under `property`. -/
def propertyNamed? (value : Json) : Option String :=
  (value.member? "property").bind Json.asString?

variable {d : Declaration} {members : Table Json}

theorem property?_of_ofParts {base : Float} {kind : Option FunctionKind}
    {property : Option String} {stops : List (Json × Json)}
    (h : ofParts base kind property stops members = .ok d) : d.property? = property := by
  obtain ⟨rfl, f, rfl⟩ | ⟨name, rfl, ⟨stops, kind', rfl⟩ | ⟨-, outer, rfl⟩⟩ := ofParts_eq_ok h
  all_goals rfl

theorem propertyNamed?_of_propertyOf {property : Option String}
    (h : propertyOf members = .ok property) : propertyNamed? (.object members) = property := by
  have hn : propertyNamed? (.object members) = (members.get? "property").bind Json.asString? := rfl
  unfold propertyOf at h
  rw [hn]
  split at h
  · next hg =>
    rw [hg]
    exact Except.ok.inj h
  · next hg =>
    rw [hg]
    exact Except.ok.inj h
  · simp at h

/-- A declaration reads the property that its value names, and none if it names none. -/
theorem property?_of_ofJson {name : String} {value : Json} (h : ofJson name value = .ok d) :
    d.property? = propertyNamed? value := by
  cases value with
  | object members =>
    by_cases hf : isFunctionObject members = true
    · obtain ⟨base, kind, property, stops, -, -, hp, -, hd⟩ :=
        ofMembers_eq_ok.1 ((ofJson_function hf).1 h)
      rw [property?_of_ofParts hd, propertyNamed?_of_propertyOf hp]
    · rw [ofJson, if_neg hf] at h
      obtain rfl := Except.ok.inj h
      have hnone : Table.get? members "property" = none := by
        simp only [isFunctionObject, Table.contains, Bool.or_eq_true, not_or] at hf
        simpa using hf.2
      show none = (Table.get? members "property").bind Json.asString?
      rw [hnone, Option.bind_none]
  | _ =>
    obtain rfl := Except.ok.inj h
    rfl

end Declaration

/-! ## Evaluators -/

namespace Evaluator

variable {α : Type}

/-- The feature property that an evaluator reads. -/
def property? : Evaluator α → Option String
  | constant _ | zoom _ _ => none
  | property name _ _ => some name
  | zoomAndProperty name _ _ _ _ => some name

theorem isSome_property? (e : Evaluator α) : e.property?.isSome = e.dependsOnFeature := by
  cases e <;> rfl

variable [Arith α] {e : Evaluator α} {f g : Feature}

theorem evaluate_zoom_congr (h : e.dependsOnZoom = false) (z z' : α) (f : Feature) :
    e.evaluate z f = e.evaluate z' f := by
  cases e with
  | constant value => rfl
  | zoom curve default => simp [dependsOnZoom] at h
  | property name curve default => rfl
  | zoomAndProperty name zooms curves scale default => simp [dependsOnZoom] at h

/-- Features that agree on the property that is read, be it there or not, get the same value. -/
theorem evaluate_congr (h : ∀ name ∈ e.property?, f.property? name = g.property? name) (z : α) :
    e.evaluate z f = e.evaluate z g := by
  cases e with
  | constant value => rfl
  | zoom curve default => rfl
  | property name curve default => rw [evaluate, evaluate, evaluate?, evaluate?, h name rfl]
  | zoomAndProperty name zooms curves scale default =>
    rw [evaluate, evaluate, evaluate?, evaluate?, h name rfl]

theorem evaluate_feature_congr (h : e.dependsOnFeature = false) (z : α) (f g : Feature) :
    e.evaluate z f = e.evaluate z g := by
  rw [← isSome_property?, Option.isSome_eq_false_iff, Option.isNone_iff_eq_none] at h
  exact evaluate_congr (by simp [h]) z

/-- Two views, each of a zoom level and a feature, agree on what an evaluator of a kind depends on.
A function of both depends on all of a view, so that nothing is said of it. -/
def Agrees (kind : String) (z z' : α) (f g : Feature) : Prop :=
  kind = "constant" ∨ kind = "zoom" ∧ z = z' ∨ kind = "property" ∧ f = g

/-- A kind tells the truth: where two views agree on what it depends on, the values are equal. -/
theorem evaluate_of_agrees {z z' : α} (h : Agrees e.kindName z z' f g) :
    e.evaluate z f = e.evaluate z' g := by
  obtain hk | ⟨hk, rfl⟩ | ⟨hk, rfl⟩ := h
  · cases e with
    | constant value => rfl
    | _ => simp [kindName, dependsOnZoom, dependsOnFeature] at hk
  · cases e with
    | zoom curve default => rfl
    | _ => simp [kindName, dependsOnZoom, dependsOnFeature] at hk
  · cases e with
    | property name curve default => rfl
    | _ => simp [kindName, dependsOnZoom, dependsOnFeature] at hk

/-! ## Compiled evaluators -/

theorem property?_ofZoom (colors : Bool) (default : Value α) (f : ZoomFunction) :
    (ofZoom colors default f).property? = none := by
  simp only [ofZoom]
  split <;> rfl

theorem property?_ofDeclaration (colors : Bool) (default : Value α) (d : Declaration) :
    (ofDeclaration colors default d).property? = d.property? := by
  cases d with
  | constant value => rfl
  | zoom f => exact property?_ofZoom colors default f
  | property f => rfl
  | zoomAndProperty f => rfl

/-- A compiled property reads the feature property that its declared value names. -/
theorem property?_of_compile {name : String} {declared default : Option Json}
    (h : compile name declared default = .ok e) :
    e.property? = declared.bind Declaration.propertyNamed? := by
  cases declared with
  | none =>
    obtain rfl := Except.ok.inj h
    rfl
  | some value =>
    obtain ⟨d, hd, rfl⟩ := Reading.map_eq_ok.1 h
    rw [property?_ofDeclaration, Declaration.property?_of_ofJson hd, Option.bind_some]

/-- A compiled property changes with the zoom level only if it says so. It changes with the feature
only if it says so, which it does when its declared value names a property, and then only with this
property. What a table calls constant has one value. -/
theorem evaluate_eq_of_compile {name : String} {declared default : Option Json}
    (h : compile name declared default = .ok e) :
    (e.dependsOnZoom = false → ∀ z z' f, e.evaluate z f = e.evaluate z' f) ∧
    (e.dependsOnFeature = false → ∀ z f g, e.evaluate z f = e.evaluate z g) ∧
    e.dependsOnFeature = (declared.bind Declaration.propertyNamed?).isSome ∧
    (∀ f g : Feature, (∀ property ∈ declared.bind Declaration.propertyNamed?,
      f.property? property = g.property? property) → ∀ z, e.evaluate z f = e.evaluate z g) ∧
    ∀ (table : Table (Evaluator α)) key, table.get? key = some e →
      (kindNames table).get? key = some "constant" → ∃ v, ∀ z f, e.evaluate z f = v := by
  refine ⟨evaluate_zoom_congr, evaluate_feature_congr, ?_, fun f g hfg => ?_, ?_⟩
  · rw [← isSome_property?, property?_of_compile h]
  · rw [← property?_of_compile h] at hfg
    exact evaluate_congr hfg
  · intro table key he hk
    rw [kindNames, Table.get?_mapValues, he, Option.map_some] at hk
    refine ⟨e.evaluate Arith.zero (Feature.blank .unknown), fun z f => ?_⟩
    exact evaluate_of_agrees (.inl (Option.some.inj hk))

/-- A width that follows the lanes of a road. -/
def laneWidth : Json :=
  .object [("default", Json.natural 1), ("property", .string "lanes"), ("stops", .array
    [.array [Json.natural 1, Json.natural 2], .array [Json.natural 6, Json.natural 12]])]

def road : Feature where
  id := some (Json.natural 7)
  geometry := .lineString
  properties := [("lanes", Json.natural 4), ("name", .string "Ring")]

def lane : Feature where
  id := none
  geometry := .unknown
  properties := [("lanes", Json.natural 4)]

theorem evaluate_eq_of_compile_lanes :
    ∃ e : Evaluator Float, compile "line-width" (some laneWidth) (some (Json.natural 1)) = .ok e ∧
      (∀ z z' f, e.evaluate z f = e.evaluate z' f) ∧
      ∀ z, e.evaluate z road = e.evaluate z lane := by
  obtain ⟨e, he, hz⟩ : ∃ e : Evaluator Float,
      compile "line-width" (some laneWidth) (some (Json.natural 1)) = .ok e ∧
        e.dependsOnZoom = false := ⟨_, rfl, rfl⟩
  obtain ⟨hzoom, -, -, hproperty, -⟩ := evaluate_eq_of_compile he
  refine ⟨e, he, hzoom hz, hproperty road lane ?_⟩
  rintro _ ⟨⟩
  rfl

end Evaluator

end StyledMap
