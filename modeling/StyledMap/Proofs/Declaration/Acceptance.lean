import StyledMap.Proofs.Declaration.Grouping
import StyledMap.Proofs.Json

/-! # The values that are declarations

What a value declares can be said without reading it, by what its members are: a constant, or a
function in one of the notations for its stops.

* `HasParts`: the base, the type, the property and the stops of a function object.
* `Makes`: the functions that these parts make, with one rule for each notation.
* `Declares`: a value declares a constant, or a function that its parts make.
* `ofJson_eq_ok_iff`: exactly what is declared is read. One way it follows the reading, which looks
  at the first stop and then at all of them; the other way each rule is read back.
* `ofJson_declares_or_malformed`: a value declares one thing, or it is refused as a malformed
  function.

Values are proper, as every value is that `Json.parse?` reads: a base that is no number would be
neither positive nor refused.
-/

set_option autoImplicit false

namespace StyledMap.Declaration

open Reading

/-! ## Declared values -/

/-- The parts that the notations share. Absent, the base is one, and there are no stops. -/
structure HasParts (members : Table Json) (base : Float) (kind : Option FunctionKind)
    (property : Option String) (stops : List (Json × Json)) : Prop where
  base : members.get? "base" = none ∧ base = 1.0 ∨
    ∃ n, members.get? "base" = some (.number n) ∧ n.toFloat = base ∧ 0.0 < base
  kind : members.get? "type" = kind.map fun k => .string k.name
  property : members.get? "property" = property.map .string
  stops : members.get? "stops" = none ∧ stops = [] ∨
    members.get? "stops" = some (pairsToJson stops)

/-- A stop of a zoom level. -/
structure LevelAs (stop : Json × Json) (level : Float × Json) : Prop where
  input : ∃ n, stop.1 = .number n ∧ n.toFloat = level.1
  output : stop.2 = level.2

/-- A stop of a zoom level whose output is a list of stops. -/
structure NestedAs (stop : Json × Json) (level : Float × List (Json × Json)) : Prop where
  input : ∃ n, stop.1 = .number n ∧ n.toFloat = level.1
  output : stop.2 = pairsToJson level.2

/-- The functions that the parts of an object make. -/
inductive Makes (members : Table Json) (base : Float) (kind : Option FunctionKind) :
    Option String → List (Json × Json) → Declaration → Prop
  | zoom {stops : List (Json × Json)} (hc : kind ≠ some .categorical) (hi : kind ≠ some .identity)
      {levels : List (Float × Json)} (hl : List.Forall₂ LevelAs stops levels) :
      Makes members base kind none stops (.zoom ⟨levels, base, kind.getD .exponential⟩)
  | identity {property : String} {stops : List (Json × Json)} (hi : kind = some .identity) :
      Makes members base kind (some property) stops
        (.property ⟨property, [], base, .identity, members.get? "default"⟩)
  /-- Stops that are there and empty. -/
  | empty {property : String} (hi : kind ≠ some .identity)
      (hs : members.contains "stops" = true) :
      Makes members base kind (some property) []
        (.property ⟨property, [], base, kind.getD .exponential, members.get? "default"⟩)
  /-- Every input is an object with a level and a feature value. -/
  | keyed {property : String} {stops : List (Json × Json)} (hi : kind ≠ some .identity)
      (hne : stops ≠ []) {entries : List (Float × Json × Json)}
      (hk : List.Forall₂ KeyedAs stops entries) :
      Makes members base kind (some property) stops (.zoomAndProperty
        ⟨property, gather entries, base, kind.getD .exponential, members.get? "default"⟩)
  /-- Every input is a level and every output a list of stops, of which the first is not empty. -/
  | nested {property : String} {stops : List (Json × Json)} (hi : kind ≠ some .identity)
      {level : Float × List (Json × Json)} {levels : List (Float × List (Json × Json))}
      (hne : level.2 ≠ []) (hl : List.Forall₂ NestedAs stops (level :: levels)) :
      Makes members base kind (some property) stops (.zoomAndProperty
        ⟨property, level :: levels, base, kind.getD .exponential, members.get? "default"⟩)
  /-- The first stop is of neither notation for levels. A function that interpolates or steps has
  numbers for all its inputs. -/
  | flat {property : String} {input output : Json} {stops : List (Json × Json)}
      (hi : kind ≠ some .identity) (ho : ∀ fields, input ≠ .object fields)
      (hn : input.isNumber = true → ∀ inner, inner ≠ [] → output ≠ pairsToJson inner)
      (hk : (kind.getD (impliedKind input)).isNumeric = true →
        ∀ stop ∈ (input, output) :: stops, stop.1.isNumber = true) :
      Makes members base kind (some property) ((input, output) :: stops) (.property ⟨property,
        (input, output) :: stops, base, kind.getD (impliedKind input), members.get? "default"⟩)

/-- The values that are declarations. -/
inductive Declares : Json → Declaration → Prop
  | constant {value : Json} (hf : isFunctionValue value = false) : Declares value (.constant value)
  | function {members : Table Json} {base : Float} {kind : Option FunctionKind}
      {property : Option String} {stops : List (Json × Json)} {d : Declaration}
      (hf : isFunctionValue (.object members) = true)
      (hp : HasParts members base kind property stops)
      (hm : Makes members base kind property stops d) : Declares (.object members) d

/-! ## Parts -/

variable {members : Table Json} {base : Float} {kind : Option FunctionKind}
  {property : Option String} {stops : List (Json × Json)} {d : Declaration}

theorem isProper_of_get? (hp : (Json.object members).isProper = true) {key : String} {value : Json}
    (h : members.get? key = some value) : value.isProper = true :=
  Json.areProperMembers_iff.1 hp _ (Table.mem_of_get? h)

theorem baseOf_eq_ok (hp : (Json.object members).isProper = true) :
    baseOf members = .ok base ↔ members.get? "base" = none ∧ base = 1.0 ∨
      ∃ n, members.get? "base" = some (.number n) ∧ n.toFloat = base ∧ 0.0 < base := by
  unfold baseOf
  cases hb : members.get? "base" with
  | none => simp [eq_comm]
  | some value =>
    cases value with
    | number n =>
      have hn : n.toFloat.isNaN = false := Number.isNaN_toFloat (isProper_of_get? hp hb)
      have hpos : ¬ n.toFloat ≤ 0.0 ↔ (0.0 : Float) < n.toFloat :=
        Double.not_le_iff hn (by decide)
      by_cases hle : n.toFloat ≤ 0.0
      · have hlt : ¬ (0.0 : Float) < n.toFloat := fun h => hpos.2 h hle
        simp only [Json.asFloat?, if_pos hle]
        constructor
        · rintro ⟨⟩
        · rintro (⟨⟨⟩, -⟩ | ⟨m, ⟨⟩, rfl, h⟩)
          exact absurd h hlt
      · simp only [Json.asFloat?, if_neg hle]
        constructor
        · rintro ⟨rfl⟩
          exact .inr ⟨n, rfl, rfl, hpos.1 hle⟩
        · rintro (⟨⟨⟩, -⟩ | ⟨m, ⟨⟩, rfl, -⟩)
          rfl
    | _ => simp [Json.asFloat?]

theorem ofName?_eq_some {name : String} {k : FunctionKind} :
    FunctionKind.ofName? name = some k ↔ name = k.name := by
  constructor
  · intro h
    unfold FunctionKind.ofName? at h
    split at h <;> cases h <;> rfl
  · rintro rfl
    cases k <;> rfl

theorem kindOf_eq_ok :
    kindOf members = .ok kind ↔ members.get? "type" = kind.map fun k => .string k.name := by
  unfold kindOf
  split
  · next h => cases kind <;> simp [h]
  · next name h =>
    have hname (k : FunctionKind) : name = k.name ↔ FunctionKind.ofName? name = some k :=
      ofName?_eq_some.symm
    cases hn : FunctionKind.ofName? name <;> cases kind <;> simp [h, hname, hn]
  · next value hs h =>
    cases kind with
    | none => simp [h]
    | some k => simpa [h] using fun hv => hs k.name hv

theorem propertyOf_eq_ok :
    propertyOf members = .ok property ↔ members.get? "property" = property.map .string := by
  unfold propertyOf
  split
  · next h => cases property <;> simp [h]
  · next name h => cases property <;> simp [h]
  · next value hs h => cases property <;> simp_all

theorem stopsOf_eq_ok :
    stopsOf members = .ok stops ↔ members.get? "stops" = none ∧ stops = [] ∨
      members.get? "stops" = some (pairsToJson stops) := by
  unfold stopsOf
  cases members.get? "stops" with
  | none => simp [eq_comm]
  | some value => simpa using pairsOf_eq_ok

theorem hasParts_iff (hp : (Json.object members).isProper = true) :
    HasParts members base kind property stops ↔ baseOf members = .ok base ∧
      kindOf members = .ok kind ∧ propertyOf members = .ok property ∧
      stopsOf members = .ok stops := by
  rw [baseOf_eq_ok hp, kindOf_eq_ok, propertyOf_eq_ok, stopsOf_eq_ok]
  exact ⟨fun h => ⟨h.base, h.kind, h.property, h.stops⟩, fun ⟨hb, hk, hn, hs⟩ => ⟨hb, hk, hn, hs⟩⟩

theorem HasParts.contains_stops (h : HasParts members base kind property stops)
    (hne : stops ≠ []) : members.contains "stops" = true := by
  obtain ⟨-, hnil⟩ | hs := h.stops
  · exact absurd hnil hne
  · rw [Table.contains, hs]
    rfl

/-! ## Stops of levels -/

theorem numericInput_eq_ok {input : Json} {x : Float} :
    numericInput input = .ok x ↔ ∃ n, input = .number n ∧ n.toFloat = x := by
  cases input <;> simp [numericInput, Json.asFloat?]

theorem isNumeric_getD_iff :
    (kind.getD .exponential).isNumeric = true ↔
      kind ≠ some .categorical ∧ kind ≠ some .identity := by
  cases kind with
  | none => decide
  | some k => cases k <;> decide

theorem ofZoomStops_eq_ok_iff :
    ofZoomStops stops base kind = .ok d ↔ (kind ≠ some .categorical ∧ kind ≠ some .identity) ∧
      ∃ levels, List.Forall₂ LevelAs stops levels ∧
        .zoom ⟨levels, base, kind.getD .exponential⟩ = d := by
  have hlevel (stop : Json × Json) (level : Float × Json) :
      (do return (← numericInput stop.1, stop.2) : Except FunctionFault (Float × Json)) =
        .ok level ↔ LevelAs stop level := by
    rw [bind_eq_ok]
    constructor
    · rintro ⟨x, hx, h⟩
      obtain rfl := pure_eq_ok.1 h
      exact ⟨numericInput_eq_ok.1 hx, rfl⟩
    · rintro ⟨hinput, hout⟩
      exact ⟨level.1, numericInput_eq_ok.2 hinput, pure_eq_ok.2 (Prod.ext rfl hout)⟩
  rw [← isNumeric_getD_iff]
  unfold ofZoomStops
  cases hk : (kind.getD .exponential).isNumeric with
  | true => simp only [hk, if_true, true_and, bind_eq_ok, mapM_eq_ok, hlevel, pure_eq_ok]
  | false => simp [hk]

theorem nestedStops_eq_ok {outer : List (Float × List (Json × Json))} :
    nestedStops stops = .ok outer ↔ List.Forall₂ NestedAs stops outer := by
  have hnested (stop : Json × Json) (level : Float × List (Json × Json)) :
      (do return (← numericInput stop.1, ← pairsOf stop.2) :
        Except FunctionFault (Float × List (Json × Json))) = .ok level ↔ NestedAs stop level := by
    rw [bind_eq_ok]
    constructor
    · rintro ⟨x, hx, h⟩
      obtain ⟨pairs, hpairs, h⟩ := bind_eq_ok.1 h
      obtain rfl := pure_eq_ok.1 h
      exact ⟨numericInput_eq_ok.1 hx, pairsOf_eq_ok.1 hpairs⟩
    · rintro ⟨hinput, hout⟩
      exact ⟨level.1, numericInput_eq_ok.2 hinput,
        bind_eq_ok.2 ⟨level.2, pairsOf_eq_ok.2 hout, rfl⟩⟩
  simp only [nestedStops, mapM_eq_ok, hnested]

/-! ## Levels of keyed stops -/

theorem isProper_of_member? {value v : Json} (hp : value.isProper = true) {key : String}
    (h : value.member? key = some v) : v.isProper = true := by
  cases value with
  | object members => exact isProper_of_get? hp h
  | _ => simp [Json.member?, Json.asMembers?] at h

theorem isProper_of_mem_stops (hp : (Json.object members).isProper = true)
    (hs : members.get? "stops" = some (pairsToJson stops)) :
    ∀ stop ∈ stops, stop.1.isProper = true := by
  intro stop hstop
  have hlist : (pairsToJson stops).isProper = true := isProper_of_get? hp hs
  have hpair : (Json.array [stop.1, stop.2]).isProper = true :=
    Json.areProper_iff.1 hlist _ (List.mem_map_of_mem hstop)
  exact Json.areProper_iff.1 hpair _ List.mem_cons_self

/-- The levels of keyed stops are numbers, so that grouping gathers them. -/
theorem groupFrom_of_keyedAs {entries : List (Float × Json × Json)}
    (hp : ∀ stop ∈ stops, stop.1.isProper = true) (hk : List.Forall₂ KeyedAs stops entries) :
    groupFrom [] entries = gather entries := by
  refine groupFrom_nil (forall_mem_of_forall₂ (List.forall₂_and_left _ _ |>.2 ⟨hp, hk⟩) ?_)
  rintro stop entry ⟨hproper, hkeyed⟩
  obtain ⟨n, hn, hx⟩ := hkeyed.level
  rw [← hx]
  exact Number.isNaN_toFloat (isProper_of_member? hproper hn)

/-! ## Reading -/

section

variable (hp : (Json.object members).isProper = true)
  (hparts : HasParts members base kind property stops)

include hp hparts

/-- What is read from the stops of a property is made from them. -/
theorem makes_of_ofPropertyStops {name : String} (hi : kind ≠ some .identity)
    (hc : members.contains "stops" = true)
    (h : ofPropertyStops name stops base kind (members.get? "default") = .ok d) :
    Makes members base kind (some name) stops d := by
  cases stopsForm stops with
  | empty =>
    obtain rfl := Except.ok.inj h
    exact .empty hi hc
  | keyed fields output stops =>
    obtain ⟨outer, ho, hd⟩ := ofPropertyStops_keyed.1 h
    obtain ⟨entries, hk, rfl⟩ := groupByZoom_eq_ok.1 ho
    have hs : members.get? "stops" = some (pairsToJson ((.object fields, output) :: stops)) :=
      hparts.stops.resolve_left (by simp)
    rw [groupFrom_of_keyedAs (isProper_of_mem_stops hp hs) hk] at hd
    exact hd ▸ .keyed hi (List.cons_ne_nil _ _) hk
  | nested stops ho hn =>
    obtain ⟨outer, houter, rfl⟩ := (ofPropertyStops_nested ho hn).1 h
    obtain ⟨-, hlist⟩ := Bool.and_eq_true_iff.1 hn
    obtain ⟨inner, hne, hinner⟩ := isStopList_iff.1 hlist
    cases nestedStops_eq_ok.1 houter with
    | @cons _ level _ levels hlevel hlevels =>
      have heq : inner = level.2 := pairsToJson_inj (hinner.symm.trans hlevel.output)
      exact .nested hi (heq ▸ hne) (.cons hlevel hlevels)
  | flat stops ho hn =>
    obtain ⟨hk, rfl⟩ := (ofPropertyStops_flat ho hn).1 h
    refine .flat hi ?_ ?_ fun hnumeric => List.all_eq_true.1 (hk hnumeric)
    · rintro fields rfl
      simp [Json.asMembers?] at ho
    · rintro hnumber inner hne rfl
      rw [hnumber, isStopList_iff.2 ⟨inner, hne, rfl⟩] at hn
      simp at hn

theorem makes_of_ofParts (h : ofParts base kind property stops members = .ok d) :
    Makes members base kind property stops d := by
  unfold ofParts at h
  split at h
  · obtain ⟨⟨hc, hi⟩, levels, hl, rfl⟩ := ofZoomStops_eq_ok_iff.1 h
    exact .zoom hc hi hl
  · split at h
    · next hi =>
      obtain rfl := Except.ok.inj h
      exact .identity hi
    · next hi =>
      split at h
      · next hc => exact makes_of_ofPropertyStops hp hparts hi hc h
      · simp at h

/-- Each rule is read back. -/
theorem ofParts_of_makes (h : Makes members base kind property stops d) :
    ofParts base kind property stops members = .ok d := by
  have hread {name : String} (hi : kind ≠ some .identity) (hne : stops ≠ []) :
      ofParts base kind (some name) stops members =
        ofPropertyStops name stops base kind (members.get? "default") := by
    rw [ofParts, if_neg hi, if_pos (hparts.contains_stops hne)]
  cases h with
  | zoom hc hi hl => exact ofZoomStops_eq_ok_iff.2 ⟨⟨hc, hi⟩, _, hl, rfl⟩
  | identity hi => rw [ofParts, if_pos hi]
  | empty hi hs => rw [ofParts, if_neg hi, if_pos hs, ofPropertyStops]
  | @keyed _ _ hi hne entries hk =>
    have hs : members.get? "stops" = some (pairsToJson stops) :=
      hparts.stops.resolve_left fun h => hne h.2
    have hgroups : groupByZoom stops = .ok (gather entries) :=
      groupByZoom_eq_ok.2 ⟨entries, hk, groupFrom_of_keyedAs (isProper_of_mem_stops hp hs) hk⟩
    rw [hread hi hne]
    obtain ⟨⟨input, output⟩, rest, rfl⟩ := List.exists_cons_of_ne_nil hne
    cases hk with
    | cons hstop _ =>
      cases input with
      | object fields => exact ofPropertyStops_keyed.2 ⟨_, hgroups, rfl⟩
      | _ => simpa [Json.member?, Json.asMembers?] using hstop.value
  | @nested _ _ hi level levels hne hl =>
    have hlevels := nestedStops_eq_ok.2 hl
    cases hl with
    | @cons stop _ stops _ hstop _ =>
      obtain ⟨input, output⟩ := stop
      obtain ⟨⟨n, rfl, -⟩, rfl⟩ := hstop
      rw [hread hi (List.cons_ne_nil _ _)]
      have hlist : isStopList (pairsToJson level.2) = true := isStopList_iff.2 ⟨_, hne, rfl⟩
      exact (ofPropertyStops_nested rfl (by simpa [Json.isNumber] using hlist)).2 ⟨_, hlevels, rfl⟩
  | @flat _ input output stops hi ho hn hk =>
    have hmembers : input.asMembers? = none := by
      cases input with
      | object fields => exact absurd rfl (ho fields)
      | _ => rfl
    have hform : (input.isNumber && isStopList output) = false := by
      by_contra h
      obtain ⟨hnumber, hlist⟩ := Bool.and_eq_true_iff.1 (Bool.eq_true_of_not_eq_false h)
      obtain ⟨inner, hne, houtput⟩ := isStopList_iff.1 hlist
      exact hn hnumber inner hne houtput
    rw [hread hi (List.cons_ne_nil _ _)]
    exact (ofPropertyStops_flat hmembers hform).2
      ⟨fun hnumeric => List.all_eq_true.2 (hk hnumeric), rfl⟩

end

theorem ofMembers_eq_ok_iff (hp : (Json.object members).isProper = true) :
    ofMembers members = .ok d ↔ ∃ base kind property stops,
      HasParts members base kind property stops ∧ Makes members base kind property stops d := by
  rw [ofMembers_eq_ok]
  constructor
  · rintro ⟨base, kind, property, stops, hb, hk, hn, hs, hd⟩
    have hparts := (hasParts_iff hp).2 ⟨hb, hk, hn, hs⟩
    exact ⟨base, kind, property, stops, hparts, makes_of_ofParts hp hparts hd⟩
  · rintro ⟨base, kind, property, stops, hparts, hm⟩
    obtain ⟨hb, hk, hn, hs⟩ := (hasParts_iff hp).1 hparts
    exact ⟨base, kind, property, stops, hb, hk, hn, hs, ofParts_of_makes hp hparts hm⟩

/-- Exactly what is declared is read. -/
theorem ofJson_eq_ok_iff (name : String) {value : Json} (hp : value.isProper = true) :
    ofJson name value = .ok d ↔ Declares value d := by
  cases hf : isFunctionValue value with
  | false =>
    rw [ofJson_of_isFunctionValue_eq_false hf]
    constructor
    · intro h
      obtain rfl := Except.ok.inj h
      exact .constant hf
    · intro h
      cases h with
      | constant => rfl
      | function hf' => simp [hf] at hf'
  | true =>
    cases value with
    | object members =>
      rw [ofJson_function hf, ofMembers_eq_ok_iff hp]
      constructor
      · rintro ⟨base, kind, property, stops, hparts, hm⟩
        exact .function hf hparts hm
      · intro h
        cases h with
        | constant hf' => simp [hf] at hf'
        | function _ hparts hm => exact ⟨_, _, _, _, hparts, hm⟩
    | _ => simp [isFunctionValue, Json.member?, Json.asMembers?] at hf

/-- A value declares one thing and that is read, or it declares nothing and is refused as a
malformed function. -/
theorem ofJson_declares_or_malformed (name : String) {value : Json}
    (hp : value.isProper = true) :
    (∃ d, ofJson name value = .ok d ∧ ∀ d', Declares value d' ↔ d' = d) ∨
      (∀ d, ¬ Declares value d) ∧
        ∃ cause, ofJson name value = .error (.malformedFunction name cause) := by
  cases h : ofJson name value with
  | ok d =>
    refine .inl ⟨d, rfl, fun d' => ?_⟩
    rw [← ofJson_eq_ok_iff name hp, h, Except.ok.injEq, eq_comm]
  | error fault =>
    refine .inr ⟨fun d hd => ?_, ?_⟩
    · rw [(ofJson_eq_ok_iff name hp).2 hd] at h
      simp at h
    · obtain ⟨cause, rfl⟩ := exists_cause_of_ofJson h
      exact ⟨cause, rfl⟩

/-- A function whose first level has stops, with another output for its second level. -/
def withSecondLevel (output : Json) : Json :=
  .object [("property", .string "class"),
    ("stops", .array [.array [.number (.natural 0), pairsToJson [(.string "park", .bool true)]],
      .array [.number (.natural 10), output]])]

/-- The second level has no stops at all, or an output that is no list of stops. -/
theorem ofJson_declares_or_malformed_secondLevel :
    ((withSecondLevel (.array [])).isProper = true ∧
      ∃ d, ofJson "icon-optional" (withSecondLevel (.array [])) = .ok d ∧
        ∀ d', Declares (withSecondLevel (.array [])) d' ↔ d' = d) ∧
    (withSecondLevel (.bool true)).isProper = true ∧
      (∀ d, ¬ Declares (withSecondLevel (.bool true)) d) ∧
        ∃ cause, ofJson "icon-optional" (withSecondLevel (.bool true)) =
          .error (.malformedFunction "icon-optional" cause) := by
  have hread : (withSecondLevel (.array [])).isProper = true := by decide
  have hrefused : (withSecondLevel (.bool true)).isProper = true := by decide
  refine ⟨⟨hread, (ofJson_declares_or_malformed _ hread).resolve_right ?_⟩,
    hrefused, (ofJson_declares_or_malformed _ hrefused).resolve_left ?_⟩
  · rintro ⟨-, cause, h⟩
    cases h
  · rintro ⟨d, h, -⟩
    cases h

end StyledMap.Declaration
