import StyledMap.Declaration
import StyledMap.Proofs.Reading

/-! # The grammar of function objects

What a function object must hold to be read, one part after the other.

* `ofMembers_eq_ok`: the four parts that are read first. `ofParts_eq_ok`: what is made of them.
* `isKeyed` and `isPairs` are the inputs and outputs of the two notations for functions of the zoom
  level and a property; `groupByZoom_isOk` and `nestedStops_isOk` say when stops are read as such.
* `numericInputs_isOk`: when all inputs are numbers.
* `pairsOf_eq_ok` and `isStopList_iff`: the values that are lists of stops.
* `StopsForm` tells the notations for the stops of a property apart, and each form has its lemma
  about `ofPropertyStops`.
* `isFunctionValue`: the objects that are read as functions; all other values are constants.
-/

set_option autoImplicit false

namespace StyledMap.Declaration

open Reading

/-! ## Inputs and outputs of stops -/

/-- Whether an input is an object with a numeric zoom level and a value. -/
def isKeyed (input : Json) : Bool :=
  ((input.member? "zoom").bind Json.asFloat?).isSome && (input.member? "value").isSome

/-- Whether an output is an array of arrays of two. -/
def isPairs : Json → Bool
  | .array items => items.all fun item => item.asPair?.isSome
  | _ => false

def pairsToJson (pairs : List (Json × Json)) : Json :=
  .array (pairs.map fun pair => .array [pair.1, pair.2])

theorem isNumber_iff {input : Json} : input.isNumber = true ↔ ∃ x, numericInput input = .ok x := by
  unfold numericInput
  cases input <;> simp [Json.isNumber, Json.asFloat?]

theorem isKeyed_iff {input : Json} : isKeyed input = true ↔ ∃ key, keyedInput input = .ok key := by
  cases input with
  | object members =>
    have hz : (Json.object members).member? "zoom" = Table.get? members "zoom" := rfl
    have hv : (Json.object members).member? "value" = Table.get? members "value" := rfl
    rw [isKeyed, keyedInput, hz, hv]
    cases (Table.get? members "zoom").bind Json.asFloat? with
    | none => simp
    | some level => cases Table.get? members "value" <;> simp
  | _ => simp [isKeyed, keyedInput, Json.member?, Json.asMembers?]

theorem isPairs_iff {output : Json} :
    isPairs output = true ↔ ∃ pairs, pairsOf output = .ok pairs := by
  cases output with
  | array items =>
    rw [pairsOf, mapM_isOk, isPairs, List.all_eq_true]
    refine forall₂_congr fun item _ => ?_
    cases item.asPair? <;> simp
  | _ => simp [isPairs, pairsOf]

theorem pairsOf_pairsToJson (pairs : List (Json × Json)) :
    pairsOf (pairsToJson pairs) = .ok pairs := by
  rw [pairsToJson, pairsOf, mapM_eq_ok]
  induction pairs with
  | nil => exact .nil
  | cons pair pairs ih => exact .cons rfl ih

theorem asPair?_eq_some {value : Json} {pair : Json × Json} :
    value.asPair? = some pair ↔ value = .array [pair.1, pair.2] := by
  constructor
  · intro h
    unfold Json.asPair? at h
    split at h
    · obtain rfl := Option.some.inj h
      rfl
    · simp at h
  · rintro rfl
    rfl

theorem pairsOf_eq_ok {value : Json} {pairs : List (Json × Json)} :
    pairsOf value = .ok pairs ↔ value = pairsToJson pairs := by
  constructor
  · intro h
    cases value with
    | array items =>
      rw [pairsOf, mapM_eq_ok] at h
      have hitems : items.map id = pairs.map fun pair => .array [pair.1, pair.2] := by
        refine map_eq_map_of_forall₂ h fun item _ pair hread => ?_
        cases hpair : item.asPair? with
        | none => simp [hpair] at hread
        | some read =>
          obtain rfl : read = pair := by simpa [hpair] using hread
          exact asPair?_eq_some.1 hpair
      rw [pairsToJson, ← hitems, List.map_id]
    | _ => simp [pairsOf] at h
  · rintro rfl
    exact pairsOf_pairsToJson pairs

theorem pairsToJson_inj {pairs pairs' : List (Json × Json)}
    (h : pairsToJson pairs = pairsToJson pairs') : pairs = pairs' :=
  Except.ok.inj ((pairsOf_pairsToJson pairs).symm.trans (pairsOf_eq_ok.2 h))

theorem isStopList_iff {value : Json} :
    isStopList value = true ↔ ∃ pairs, pairs ≠ [] ∧ value = pairsToJson pairs := by
  constructor
  · intro h
    cases value with
    | array items =>
      obtain ⟨hne, hall⟩ := Bool.and_eq_true_iff.1 h
      have hlist : isPairs (.array items) = true := hall
      obtain ⟨pairs, hpairs⟩ := isPairs_iff.1 hlist
      have hvalue := pairsOf_eq_ok.1 hpairs
      refine ⟨pairs, ?_, hvalue⟩
      rintro rfl
      obtain rfl := Json.array.inj hvalue
      simp at hne
    | _ => simp [isStopList] at h
  · rintro ⟨pairs, hne, rfl⟩
    obtain ⟨pair, pairs, rfl⟩ := List.exists_cons_of_ne_nil hne
    simp [isStopList, pairsToJson, Json.asPair?]

/-! ## Lists of stops -/

theorem numericInputs_isOk {stops : List (Json × Json)} :
    (stops.forM fun stop => do let _ ← numericInput stop.1) = .ok () ↔
      stops.all (fun stop => stop.1.isNumber) = true := by
  rw [forM_eq_ok, List.all_eq_true]
  refine forall₂_congr fun stop _ => ?_
  rw [isNumber_iff, bind_eq_ok]
  exact ⟨fun ⟨x, hx, _⟩ => ⟨x, hx⟩, fun ⟨x, hx⟩ => ⟨x, hx, rfl⟩⟩

theorem nestedStops_isOk {stops : List (Json × Json)} :
    (∃ outer, nestedStops stops = .ok outer) ↔
      stops.all (fun stop => stop.1.isNumber && isPairs stop.2) = true := by
  rw [nestedStops, mapM_isOk, List.all_eq_true]
  refine forall₂_congr fun stop _ => ?_
  rw [Bool.and_eq_true, isNumber_iff, isPairs_iff]
  constructor
  · rintro ⟨_, h⟩
    obtain ⟨x, hx, h⟩ := bind_eq_ok.1 h
    obtain ⟨pairs, hp, -⟩ := bind_eq_ok.1 h
    exact ⟨⟨x, hx⟩, ⟨pairs, hp⟩⟩
  · rintro ⟨⟨x, hx⟩, ⟨pairs, hp⟩⟩
    exact ⟨(x, pairs), bind_eq_ok.2 ⟨x, hx, bind_eq_ok.2 ⟨pairs, hp, rfl⟩⟩⟩

theorem groupByZoom_isOk {stops : List (Json × Json)} :
    (∃ outer, groupByZoom stops = .ok outer) ↔
      stops.all (fun stop => isKeyed stop.1) = true := by
  unfold groupByZoom
  -- The groups that the fold starts with have no say in whether a stop is read.
  generalize ([] : List (Float × List (Json × Json))) = groups
  induction stops generalizing groups with
  | nil => exact iff_of_true ⟨groups, rfl⟩ rfl
  | cons stop stops ih =>
    rw [List.all_cons, Bool.and_eq_true, isKeyed_iff, List.foldlM_cons]
    constructor
    · rintro ⟨outer, h⟩
      obtain ⟨next, hn, h⟩ := bind_eq_ok.1 h
      obtain ⟨key, hk, -⟩ := bind_eq_ok.1 hn
      exact ⟨⟨key, hk⟩, (ih next).1 ⟨outer, h⟩⟩
    · rintro ⟨⟨key, hk⟩, hs⟩
      obtain ⟨outer, h⟩ := (ih (addToGroup key.1 (key.2, stop.2) groups)).2 hs
      exact ⟨outer, bind_eq_ok.2 ⟨_, bind_eq_ok.2 ⟨key, hk, rfl⟩, h⟩⟩

/-! ## Stops of a property -/

/-- The form of the stops of a property, as the first stop shows it. -/
inductive StopsForm : List (Json × Json) → Prop
  | empty : StopsForm []
  | keyed (members : Table Json) (output : Json) (stops : List (Json × Json)) :
      StopsForm ((.object members, output) :: stops)
  | nested {input output : Json} (stops : List (Json × Json)) (hi : input.asMembers? = none)
      (hn : (input.isNumber && isStopList output) = true) : StopsForm ((input, output) :: stops)
  | flat {input output : Json} (stops : List (Json × Json)) (hi : input.asMembers? = none)
      (hn : (input.isNumber && isStopList output) = false) : StopsForm ((input, output) :: stops)

theorem stopsForm_cons {input : Json} (hi : input.asMembers? = none) (output : Json)
    (stops : List (Json × Json)) : StopsForm ((input, output) :: stops) := by
  cases hn : input.isNumber && isStopList output with
  | true => exact .nested stops hi hn
  | false => exact .flat stops hi hn

theorem stopsForm : (stops : List (Json × Json)) → StopsForm stops
  | [] => .empty
  | (.object members, output) :: stops => .keyed members output stops
  | (.null, output) :: stops => stopsForm_cons rfl output stops
  | (.bool _, output) :: stops => stopsForm_cons rfl output stops
  | (.number _, output) :: stops => stopsForm_cons rfl output stops
  | (.string _, output) :: stops => stopsForm_cons rfl output stops
  | (.array _, output) :: stops => stopsForm_cons rfl output stops

section

variable {property : String} {stops : List (Json × Json)} {base : Float}
  {kind : Option FunctionKind} {fallback : Option Json} {d : Declaration}

theorem ofPropertyStops_keyed {members : Table Json} {output : Json} :
    ofPropertyStops property ((.object members, output) :: stops) base kind fallback = .ok d ↔
      ∃ outer, groupByZoom ((.object members, output) :: stops) = .ok outer ∧
        .zoomAndProperty ⟨property, outer, base, kind.getD .exponential, fallback⟩ = d := by
  exact bind_eq_ok.trans (exists_congr fun outer => and_congr_right fun _ => pure_eq_ok)

variable {input output : Json} (hi : input.asMembers? = none)

include hi

theorem ofPropertyStops_cons :
    ofPropertyStops property ((input, output) :: stops) base kind fallback =
      if input.isNumber && isStopList output then do
        return .zoomAndProperty ⟨property, ← nestedStops ((input, output) :: stops), base,
          kind.getD .exponential, fallback⟩
      else do
        let kind := kind.getD (impliedKind input)
        if kind.isNumeric then
          ((input, output) :: stops).forM fun stop => do let _ ← numericInput stop.1
        return .property ⟨property, (input, output) :: stops, base, kind, fallback⟩ := by
  cases input with
  | object members => simp [Json.asMembers?] at hi
  | _ => rfl

theorem ofPropertyStops_nested (hn : (input.isNumber && isStopList output) = true) :
    ofPropertyStops property ((input, output) :: stops) base kind fallback = .ok d ↔
      ∃ outer, nestedStops ((input, output) :: stops) = .ok outer ∧
        .zoomAndProperty ⟨property, outer, base, kind.getD .exponential, fallback⟩ = d := by
  rw [ofPropertyStops_cons hi, if_pos hn]
  exact bind_eq_ok.trans (exists_congr fun outer => and_congr_right fun _ => pure_eq_ok)

theorem ofPropertyStops_flat (hn : (input.isNumber && isStopList output) = false) :
    ofPropertyStops property ((input, output) :: stops) base kind fallback = .ok d ↔
      ((kind.getD (impliedKind input)).isNumeric = true →
        ((input, output) :: stops).all (fun stop => stop.1.isNumber) = true) ∧
      .property ⟨property, (input, output) :: stops, base, kind.getD (impliedKind input),
        fallback⟩ = d := by
  rw [ofPropertyStops_cons hi, if_neg (by simp [hn]), ← numericInputs_isOk]
  by_cases hk : (kind.getD (impliedKind input)).isNumeric = true
  · simp only [if_pos hk]
    rw [bind_eq_ok]
    constructor
    · rintro ⟨_, hs, hd⟩
      exact ⟨fun _ => hs, pure_eq_ok.1 hd⟩
    · rintro ⟨hs, rfl⟩
      exact ⟨(), hs hk, rfl⟩
  · simp only [if_neg hk]
    constructor
    · intro h
      exact ⟨fun hk' => absurd hk' hk, pure_eq_ok.1 h⟩
    · rintro ⟨-, rfl⟩
      rfl

end

/-- What is read from the stops of a property takes all but these stops, and in a function of the
property alone the kind, from the object as a whole. -/
theorem ofPropertyStops_eq_ok {property : String} {stops : List (Json × Json)} {base : Float}
    {kind : Option FunctionKind} {fallback : Option Json} {d : Declaration}
    (h : ofPropertyStops property stops base kind fallback = .ok d) :
    (∃ kind, d = .property ⟨property, stops, base, kind, fallback⟩) ∨
      ∃ outer, d = .zoomAndProperty ⟨property, outer, base, kind.getD .exponential, fallback⟩ := by
  cases stopsForm stops with
  | empty =>
    obtain rfl := Except.ok.inj h
    exact .inl ⟨_, rfl⟩
  | keyed members output stops =>
    obtain ⟨outer, -, rfl⟩ := ofPropertyStops_keyed.1 h
    exact .inr ⟨outer, rfl⟩
  | nested stops hi hn =>
    obtain ⟨outer, -, rfl⟩ := (ofPropertyStops_nested hi hn).1 h
    exact .inr ⟨outer, rfl⟩
  | flat stops hi hn =>
    obtain ⟨-, rfl⟩ := (ofPropertyStops_flat hi hn).1 h
    exact .inl ⟨_, rfl⟩

theorem ofZoomStops_eq_ok {stops : List (Json × Json)} {base : Float} {kind : Option FunctionKind}
    {d : Declaration} (h : ofZoomStops stops base kind = .ok d) : ∃ f, .zoom f = d := by
  unfold ofZoomStops at h
  simp only at h
  split at h
  · obtain ⟨outer, -, hd⟩ := bind_eq_ok.1 h
    exact ⟨_, pure_eq_ok.1 hd⟩
  · simp at h

/-! ## Function objects -/

/-- Whether a value is an object with stops or a property. -/
def isFunctionValue (value : Json) : Bool :=
  (value.member? "stops").isSome || (value.member? "property").isSome

def ofParts (base : Float) (kind : Option FunctionKind) (property : Option String)
    (stops : List (Json × Json)) (members : Table Json) : Except FunctionFault Declaration :=
  match property with
  | none => ofZoomStops stops base kind
  | some property =>
    if kind = some .identity then
      .ok (.property ⟨property, [], base, .identity, members.get? "default"⟩)
    else if members.contains "stops" then
      ofPropertyStops property stops base kind (members.get? "default")
    else .error .needsStops

/-- Without a property the function is one of the zoom level alone. With one it keeps the property
and the default of the object. -/
theorem ofParts_eq_ok {base : Float} {kind : Option FunctionKind} {property : Option String}
    {stops : List (Json × Json)} {members : Table Json} {d : Declaration}
    (h : ofParts base kind property stops members = .ok d) :
    (property = none ∧ ∃ f, d = .zoom f) ∨ ∃ name, property = some name ∧
      ((∃ stops kind, d = .property ⟨name, stops, base, kind, members.get? "default"⟩) ∨
        kind ≠ some .identity ∧ ∃ outer, d =
          .zoomAndProperty ⟨name, outer, base, kind.getD .exponential, members.get? "default"⟩) := by
  unfold ofParts at h
  split at h
  · obtain ⟨f, rfl⟩ := ofZoomStops_eq_ok h
    exact .inl ⟨rfl, f, rfl⟩
  · next name =>
    refine .inr ⟨name, rfl, ?_⟩
    split at h
    · obtain rfl := Except.ok.inj h
      exact .inl ⟨[], .identity, rfl⟩
    · next hkind =>
      split at h
      · obtain ⟨kind, rfl⟩ | ⟨outer, rfl⟩ := ofPropertyStops_eq_ok h
        · exact .inl ⟨stops, kind, rfl⟩
        · exact .inr ⟨hkind, outer, rfl⟩
      · simp at h

theorem ofMembers_eq_ok {members : Table Json} {d : Declaration} :
    ofMembers members = .ok d ↔ ∃ base kind property stops, baseOf members = .ok base ∧
      kindOf members = .ok kind ∧ propertyOf members = .ok property ∧
      stopsOf members = .ok stops ∧ ofParts base kind property stops members = .ok d := by
  have h : ofMembers members = (do
      let base ← baseOf members
      let kind ← kindOf members
      let property ← propertyOf members
      let stops ← stopsOf members
      ofParts base kind property stops members) := rfl
  simp only [h, bind_eq_ok]
  constructor
  · rintro ⟨base, hb, kind, hk, property, hp, stops, hs, hd⟩
    exact ⟨base, kind, property, stops, hb, hk, hp, hs, hd⟩
  · rintro ⟨base, kind, property, stops, hb, hk, hp, hs, hd⟩
    exact ⟨base, hb, kind, hk, property, hp, stops, hs, hd⟩

theorem ofJson_function {name : String} {members : Table Json} {d : Declaration}
    (hf : isFunctionObject members = true) :
    ofJson name (.object members) = .ok d ↔ ofMembers members = .ok d := by
  rw [ofJson, if_pos hf, mapError_eq_ok]

theorem ofJson_of_isFunctionValue_eq_false {name : String} {value : Json}
    (hf : isFunctionValue value = false) : ofJson name value = .ok (.constant value) := by
  cases value with
  | object members =>
    have hobject : isFunctionObject members = false := hf
    rw [ofJson, hobject, if_neg Bool.false_ne_true]
  | _ => rfl

theorem exists_cause_of_ofJson {name : String} {value : Json} {fault : Fault}
    (h : ofJson name value = .error fault) : ∃ cause, fault = .malformedFunction name cause := by
  cases value with
  | object members =>
    rw [ofJson] at h
    split at h
    · obtain ⟨cause, -, rfl⟩ := mapError_eq_error.1 h
      exact ⟨cause, rfl⟩
    · simp at h
  | _ => simp [ofJson] at h

end StyledMap.Declaration
