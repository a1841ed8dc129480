import StyledMap.Proofs.Declaration.Grouping
import StyledMap.Proofs.Declaration.PlainStops
import StyledMap.Proofs.Json

/-! # The two notations of levels

The stops of a function of the zoom level and a property are written level by level, each level with
a list of its stops, or one by one, each stop with its level in its input.

* `levelByLevel` and `oneByOne` write them; `entriesOf` lists the stops of levels one by one.
* `SameOrder`: stops in another order, in which levels first occur in the same order and the stops
  of each level stand in the same order.
* `gather_entriesOf`: distinct levels are gathered to what they were.
* `ofJson_oneByOne`: an object gives the same in both notations and in any such order, and keeps the
  stops of every level.
-/

set_option autoImplicit false

namespace StyledMap.Declaration

open Reading

/-! ## Notations -/

/-- An input with a level and a feature value. -/
def levelInput (level : Number) (value : Json) : Json :=
  .object [("value", value), ("zoom", .number level)]

def levelByLevel (groups : List (Number × List (Json × Json))) : List (Json × Json) :=
  groups.map fun group => (.number group.1, pairsToJson group.2)

def oneByOne (entries : List (Number × Json × Json)) : List (Json × Json) :=
  entries.map fun entry => (levelInput entry.1 entry.2.1, entry.2.2)

/-- The stops of levels, each with its level. -/
def entriesOf (groups : List (Number × List (Json × Json))) : List (Number × Json × Json) :=
  groups.flatMap fun group => group.2.map fun stop => (group.1, stop)

/-- Entries with their levels as doubles. -/
def inDoubles (entries : List (Number × Json × Json)) : List (Float × Json × Json) :=
  entries.map fun entry => (entry.1.toFloat, entry.2)

/-- Entries are those of another list, with the levels and the stops of each level in the order that
they have there. -/
structure SameOrder (xs ys : List (Number × Json × Json)) : Prop where
  perm : xs.Perm ys
  levels : levels (inDoubles xs) = levels (inDoubles ys)
  stops : ∀ z ∈ Declaration.levels (inDoubles ys),
    stopsAt z (inDoubles xs) = stopsAt z (inDoubles ys)

theorem SameOrder.gather {xs ys : List (Number × Json × Json)} (h : SameOrder xs ys) :
    gather (inDoubles xs) = gather (inDoubles ys) := by
  rw [Declaration.gather, Declaration.gather, h.levels]
  exact List.map_congr_left fun z hz => congrArg (Prod.mk z) (h.stops z hz)

/-! ## Levels in one list -/

theorem stopsAt_append (z : Float) (xs ys : List (Float × Json × Json)) :
    stopsAt z (xs ++ ys) = stopsAt z xs ++ stopsAt z ys := by
  rw [stopsAt, List.filter_append, List.map_append, stopsAt, stopsAt]

theorem apartFrom_append (z : Float) (xs ys : List (Float × Json × Json)) :
    apartFrom z (xs ++ ys) = apartFrom z xs ++ apartFrom z ys :=
  List.filter_append _ _

theorem stopsAt_self {z : Float} (hz : (z == z) = true) (stops : List (Json × Json)) :
    stopsAt z (stops.map fun stop => (z, stop)) = stops := by
  induction stops with
  | nil => rfl
  | cons stop stops ih => rw [List.map_cons, stopsAt_cons, if_pos hz, ih]

theorem apartFrom_self {z : Float} (hz : (z == z) = true) (stops : List (Json × Json)) :
    apartFrom z (stops.map fun stop => (z, stop)) = [] := by
  induction stops with
  | nil => rfl
  | cons stop stops ih => rw [List.map_cons, apartFrom_cons, if_pos hz, ih]

section

variable {z : Float} {entries : List (Float × Json × Json)}
  (h : ∀ entry ∈ entries, (z == entry.1) = false)

include h

theorem stopsAt_eq_nil : stopsAt z entries = [] := by
  rw [stopsAt, List.filter_eq_nil_iff.2 fun entry he => by simp [h entry he], List.map_nil]

theorem apartFrom_eq_self : apartFrom z entries = entries :=
  List.filter_eq_self.2 fun entry he => by simp [h entry he]

end

/-- Levels are distinct, each has stops, and each is a number. -/
structure AreLevels (groups : List (Number × List (Json × Json))) : Prop where
  distinct : groups.Pairwise fun group other => (group.1.toFloat == other.1.toFloat) = false
  number : ∀ group ∈ groups, group.1.isProper = true
  nonempty : ∀ group ∈ groups, group.2 ≠ []

variable {groups : List (Number × List (Json × Json))} {entries : List (Number × Json × Json)}

theorem exists_group_of_mem {entry : Float × Json × Json}
    (h : entry ∈ inDoubles (entriesOf groups)) : ∃ group ∈ groups, group.1.toFloat = entry.1 := by
  obtain ⟨numbered, hn, rfl⟩ := List.mem_map.1 h
  obtain ⟨group, hg, hs⟩ := List.mem_flatMap.1 hn
  obtain ⟨stop, -, rfl⟩ := List.mem_map.1 hs
  exact ⟨group, hg, rfl⟩

theorem isNaN_of_mem_entriesOf (hl : AreLevels groups) {entry : Float × Json × Json}
    (h : entry ∈ inDoubles (entriesOf groups)) : entry.1.isNaN = false := by
  obtain ⟨group, hg, hz⟩ := exists_group_of_mem h
  rw [← hz]
  exact Number.isNaN_toFloat (hl.number group hg)

theorem inDoubles_entriesOf_cons (group : Number × List (Json × Json))
    (groups : List (Number × List (Json × Json))) :
    inDoubles (entriesOf (group :: groups)) =
      (group.2.map fun stop => (group.1.toFloat, stop)) ++ inDoubles (entriesOf groups) := by
  rw [entriesOf, List.flatMap_cons, inDoubles, List.map_append, List.map_map]
  rfl

theorem gather_entriesOf (h : AreLevels groups) :
    gather (inDoubles (entriesOf groups)) =
      groups.map fun group => (group.1.toFloat, group.2) := by
  induction groups with
  | nil => rfl
  | cons group groups ih =>
    obtain ⟨n, inner⟩ := group
    obtain ⟨hd, hds⟩ := List.pairwise_cons.1 h.distinct
    obtain ⟨hn, hns⟩ := List.forall_mem_cons.1 h.number
    obtain ⟨hi, his⟩ := List.forall_mem_cons.1 h.nonempty
    have hz : n.toFloat.isNaN = false := Number.isNaN_toFloat hn
    have hself : (n.toFloat == n.toFloat) = true := Double.beq_self_iff.2 hz
    have hother : ∀ entry ∈ inDoubles (entriesOf groups), (n.toFloat == entry.1) = false := by
      intro entry he
      obtain ⟨group, hg, hlevel⟩ := exists_group_of_mem he
      rw [← hlevel]
      exact hd group hg
    obtain ⟨stop, stops, rfl⟩ := List.exists_cons_of_ne_nil hi
    rw [inDoubles_entriesOf_cons, List.map_cons, List.cons_append, gather_cons hz, stopsAt_append,
      apartFrom_append, stopsAt_self hself, apartFrom_self hself, stopsAt_eq_nil hother,
      apartFrom_eq_self hother, List.append_nil, List.nil_append, ih ⟨hds, hns, his⟩]
    rfl

/-! ## Reading the notations -/

theorem keyedAs_levelInput (level : Number) (value output : Json) :
    KeyedAs (levelInput level value, output) (level.toFloat, value, output) :=
  ⟨⟨level, rfl, rfl⟩, rfl, rfl⟩

theorem groupByZoom_oneByOne (hl : AreLevels groups) (he : SameOrder entries (entriesOf groups)) :
    groupByZoom (oneByOne entries) =
      .ok (groups.map fun group => (group.1.toFloat, group.2)) := by
  have hnumber : ∀ entry ∈ inDoubles entries, entry.1.isNaN = false := fun entry h =>
    isNaN_of_mem_entriesOf hl ((he.perm.map _).mem_iff.1 h)
  refine groupByZoom_eq_ok.2 ⟨inDoubles entries, ?_, ?_⟩
  · rw [oneByOne, inDoubles, List.forall₂_map_left_iff, List.forall₂_map_right_iff]
    exact List.forall₂_same.2 fun entry _ => keyedAs_levelInput _ _ _
  · rw [groupFrom_nil hnumber, he.gather, gather_entriesOf hl]

theorem nestedStops_levelByLevel (groups : List (Number × List (Json × Json))) :
    nestedStops (levelByLevel groups) =
      .ok (groups.map fun group => (group.1.toFloat, group.2)) := by
  rw [nestedStops, mapM_eq_ok, levelByLevel, List.forall₂_map_left_iff,
    List.forall₂_map_right_iff]
  refine List.forall₂_same.2 fun group _ => ?_
  exact bind_eq_ok.2 ⟨_, rfl, bind_eq_ok.2 ⟨_, pairsOf_pairsToJson _, rfl⟩⟩

section

variable (property : String) (base : Float) (kind : Option FunctionKind) (fallback : Option Json)

theorem ofPropertyStops_levelByLevel (hl : AreLevels groups) (hne : groups ≠ []) :
    ofPropertyStops property (levelByLevel groups) base kind fallback =
      .ok (.zoomAndProperty ⟨property, groups.map fun group => (group.1.toFloat, group.2), base,
        kind.getD .exponential, fallback⟩) := by
  have hnested := nestedStops_levelByLevel groups
  obtain ⟨group, groups, rfl⟩ := List.exists_cons_of_ne_nil hne
  have hs : isStopList (pairsToJson group.2) = true :=
    isStopList_iff.2 ⟨_, hl.nonempty group List.mem_cons_self, rfl⟩
  exact (ofPropertyStops_nested rfl (by rw [hs]; rfl)).2 ⟨_, hnested, rfl⟩

theorem ofPropertyStops_oneByOne (hl : AreLevels groups)
    (he : SameOrder entries (entriesOf groups)) (hne : entries ≠ []) :
    ofPropertyStops property (oneByOne entries) base kind fallback =
      .ok (.zoomAndProperty ⟨property, groups.map fun group => (group.1.toFloat, group.2), base,
        kind.getD .exponential, fallback⟩) := by
  have hgroups := groupByZoom_oneByOne hl he
  obtain ⟨entry, entries, rfl⟩ := List.exists_cons_of_ne_nil hne
  exact ofPropertyStops_keyed.2 ⟨_, hgroups, rfl⟩

end

/-! ## Objects -/

theorem ofJson_withStops_eq (name : String) (members : Table Json) (stops : List (Json × Json)) :
    ofJson name (withStops members stops) =
      (ofMembers (members.insert "stops" (pairsToJson stops))).mapError
        (.malformedFunction name) := by
  have hfun : isFunctionObject (members.insert "stops" (pairsToJson stops)) = true := by
    rw [isFunctionObject, Table.contains, Table.get?_insert, if_pos rfl]
    rfl
  rw [withStops, ofJson, if_pos hfun]

theorem exists_property {members : Table Json} (hc : members.contains "property" = true)
    {property : Option String} (h : propertyOf members = .ok property) :
    ∃ p, property = some p := by
  unfold propertyOf at h
  split at h
  · next hnone =>
    rw [Table.contains, hnone] at hc
    simp at hc
  · exact ⟨_, (Except.ok.inj h).symm⟩
  · simp at h

/-- What the stops of a function of the zoom level and a property are read as. Without any stops,
and in a function that gives its input back, there are none to keep. -/
def Keeps (members : Table Json) (groups : List (Number × List (Json × Json))) :
    Declaration → Prop
  | .zoomAndProperty f => f.stops = groups.map fun group => (group.1.toFloat, group.2)
  | .property f => f.stops = [] ∧ (groups = [] ∨ kindOf members = .ok (some .identity))
  | _ => False

theorem entriesOf_ne_nil (hl : AreLevels groups) (hne : groups ≠ []) : entriesOf groups ≠ [] := by
  obtain ⟨group, groups, rfl⟩ := List.exists_cons_of_ne_nil hne
  obtain ⟨stop, stops, hs⟩ := List.exists_cons_of_ne_nil (hl.nonempty group List.mem_cons_self)
  simp [entriesOf, hs]

/-- Both notations are read as one function with the stops of every level. -/
theorem exists_ofPropertyStops (hl : AreLevels groups) (he : SameOrder entries (entriesOf groups))
    (property : String) (base : Float) (kind : Option FunctionKind) (fallback : Option Json) :
    ∃ d, ofPropertyStops property (oneByOne entries) base kind fallback = .ok d ∧
      ofPropertyStops property (levelByLevel groups) base kind fallback = .ok d ∧
      ((groups = [] ∧ d = .property ⟨property, [], base, kind.getD .exponential, fallback⟩) ∨
        ∃ f, d = .zoomAndProperty f ∧
          f.stops = groups.map fun group => (group.1.toFloat, group.2)) := by
  by_cases hne : groups = []
  · subst hne
    obtain rfl : entries = [] := List.perm_nil.1 he.perm
    exact ⟨_, rfl, rfl, .inl ⟨rfl, rfl⟩⟩
  · have hentries : entries ≠ [] := fun h =>
      entriesOf_ne_nil hl hne (List.nil_perm.1 (h ▸ he.perm))
    exact ⟨_, ofPropertyStops_oneByOne property base kind fallback hl he hentries,
      ofPropertyStops_levelByLevel property base kind fallback hl hne, .inr ⟨_, rfl, rfl⟩⟩

/-- An object gives the same function, or the same fault, whether its stops are written level by
level or one by one, in any order that keeps the order of the levels and that of the stops of each
level. Every level keeps its stops. -/
theorem ofJson_oneByOne (name : String) {members : Table Json}
    (hp : members.contains "property" = true) (hl : AreLevels groups)
    (he : SameOrder entries (entriesOf groups)) :
    (∃ d, ofJson name (withStops members (oneByOne entries)) = .ok d ∧
      ofJson name (withStops members (levelByLevel groups)) = .ok d ∧ Keeps members groups d) ∨
    ∃ cause,
      ofJson name (withStops members (oneByOne entries)) = .error (.malformedFunction name cause) ∧
      ofJson name (withStops members (levelByLevel groups)) =
        .error (.malformedFunction name cause) := by
  rw [ofJson_withStops_eq, ofJson_withStops_eq, ofMembers_insert_stops, ofMembers_insert_stops]
  cases baseOf members with
  | error cause => exact .inr ⟨cause, rfl, rfl⟩
  | ok base =>
    cases hk : kindOf members with
    | error cause => exact .inr ⟨cause, rfl, rfl⟩
    | ok kind =>
      cases hproperty : propertyOf members with
      | error cause => exact .inr ⟨cause, rfl, rfl⟩
      | ok property =>
        obtain ⟨property, rfl⟩ := exists_property hp hproperty
        refine .inl ?_
        by_cases hi : kind = some .identity
        · subst hi
          exact ⟨_, rfl, rfl, rfl, .inr hk⟩
        · obtain ⟨d, hone, hlevel, hd⟩ :=
            exists_ofPropertyStops hl he property base kind (members.get? "default")
          have hread {stops : List (Json × Json)}
              (h : ofPropertyStops property stops base kind (members.get? "default") = .ok d) :
              (if kind = some .identity then
                  (return .property ⟨property, [], base, .identity, members.get? "default"⟩)
                else ofPropertyStops property stops base kind (members.get? "default")) =
              .ok d := by
            rw [if_neg hi, h]
          refine ⟨d, mapError_eq_ok.2 (hread hone), mapError_eq_ok.2 (hread hlevel), ?_⟩
          obtain ⟨hnil, rfl⟩ | ⟨f, rfl, hstops⟩ := hd
          · exact ⟨rfl, .inl hnil⟩
          · exact hstops

/-- Two levels, the higher one first. -/
def unsortedLevels : List (Number × List (Json × Json)) :=
  [(.natural 10, [(.string "park", .number (.natural 1)), (.string "wood", .number (.natural 2))]),
    (.double 2.5, [(.string "park", .number (.natural 3))])]

/-- Their stops, one of the second level between those of the first. -/
def interleavedEntries : List (Number × Json × Json) :=
  [(.natural 10, .string "park", .number (.natural 1)),
    (.double 2.5, .string "park", .number (.natural 3)),
    (.natural 10, .string "wood", .number (.natural 2))]

theorem sameOrder_interleaved : SameOrder interleavedEntries (entriesOf unsortedLevels) where
  perm := .cons _ (.swap _ _ _)
  levels := rfl
  stops := by
    intro z hz
    have hlevels : Declaration.levels (inDoubles (entriesOf unsortedLevels)) = [10, 2.5] := rfl
    rw [hlevels] at hz
    obtain rfl | rfl : z = 10 ∨ z = 2.5 := by simpa using hz
    · rfl
    · rfl

theorem areLevels_unsorted : AreLevels unsortedLevels where
  distinct := by decide
  number := by decide
  nonempty := by simp [unsortedLevels]

/-- A function that looks inputs up, with its levels in no order. -/
theorem ofJson_oneByOne_interleaved :
    let members : Table Json := [("property", .string "class"), ("type", .string "categorical")]
    members.contains "property" = true ∧ AreLevels unsortedLevels ∧
      SameOrder interleavedEntries (entriesOf unsortedLevels) ∧
      ∃ d, ofJson "circle-radius" (withStops members (oneByOne interleavedEntries)) = .ok d ∧
        ofJson "circle-radius" (withStops members (levelByLevel unsortedLevels)) = .ok d ∧
        Keeps members unsortedLevels d := by
  intro members
  have hp : members.contains "property" = true := by decide
  refine ⟨hp, areLevels_unsorted, sameOrder_interleaved, ?_⟩
  have h := ofJson_oneByOne "circle-radius" hp areLevels_unsorted sameOrder_interleaved
  refine h.resolve_right ?_
  rintro ⟨cause, h, -⟩
  cases h

end StyledMap.Declaration
