import StyledMap.Proofs.Declaration.Grammar
import StyledMap.Proofs.Double.Order

/-! # Stops gathered by their zoom levels

The stops of a function of the zoom level and a property can be listed one by one, each with its
level. They are grouped in one pass: a stop joins the group of its level, or opens a new one at the
end.

* `gather`: for each level in the order in which levels first occur, its stops in the order in which
  they are listed.
* `foldl_addToGroup_cons`: the first group takes the stops of its level, and the rest of the pass
  never sees them. So the groups of the pass are the gathered ones, by induction on the number of
  stops that are left.
* `KeyedAs` and `groupByZoom_eq_ok`: what keyed stops are grouped to.

Levels are numbers, as they are in every function that is read from a proper value: only then a
level equals itself.
-/

set_option autoImplicit false

namespace StyledMap.Declaration

open Reading

/-! ## Gathering -/

/-- The stops of a level. -/
def stopsAt (z : Float) (entries : List (Float × Json × Json)) : List (Json × Json) :=
  (entries.filter fun entry => z == entry.1).map Prod.snd

/-- The levels that occur, each once. -/
def levels (entries : List (Float × Json × Json)) : List Float :=
  (entries.map Prod.fst).eraseDups

def gather (entries : List (Float × Json × Json)) : List (Float × List (Json × Json)) :=
  (levels entries).map fun z => (z, stopsAt z entries)

/-- The entries of other levels. -/
def apartFrom (z : Float) (entries : List (Float × Json × Json)) : List (Float × Json × Json) :=
  entries.filter fun entry => !(z == entry.1)

variable {z : Float} {stop : Json × Json} {entries : List (Float × Json × Json)}

theorem stopsAt_cons (z : Float) (entry : Float × Json × Json)
    (entries : List (Float × Json × Json)) :
    stopsAt z (entry :: entries) =
      if z == entry.1 then entry.2 :: stopsAt z entries else stopsAt z entries := by
  rw [stopsAt, List.filter_cons]
  split <;> rfl

theorem apartFrom_cons (z : Float) (entry : Float × Json × Json)
    (entries : List (Float × Json × Json)) :
    apartFrom z (entry :: entries) =
      if z == entry.1 then apartFrom z entries else entry :: apartFrom z entries := by
  rw [apartFrom, List.filter_cons]
  cases z == entry.1 <;> rfl

theorem mem_of_mem_eraseDups {x : Float} {xs : List Float} (h : x ∈ xs.eraseDups) : x ∈ xs := by
  induction hn : xs.length using Nat.strong_induction_on generalizing xs with
  | h n ih =>
    match xs with
    | [] => exact h
    | y :: ys =>
      rw [List.eraseDups_cons, List.mem_cons] at h
      obtain rfl | h := h
      · exact List.mem_cons_self
      · have hlt : (ys.filter fun b => !b == y).length < n :=
          hn ▸ Nat.lt_succ_of_le (List.length_filter_le _ _)
        exact List.mem_cons_of_mem _ (List.mem_filter.1 (ih _ hlt h rfl)).1

theorem exists_mem_of_mem_levels (h : z ∈ levels entries) : ∃ entry ∈ entries, entry.1 = z :=
  List.mem_map.1 (mem_of_mem_eraseDups h)

theorem levels_cons (z : Float) (stop : Json × Json) (entries : List (Float × Json × Json)) :
    levels ((z, stop) :: entries) = z :: levels (apartFrom z entries) := by
  have hfilter : (entries.map Prod.fst).filter (fun y => !y == z) =
      (apartFrom z entries).map Prod.fst := by
    rw [List.filter_map, apartFrom]
    congr 2
    funext entry
    rw [Function.comp_apply, Double.beq_comm]
  rw [levels, List.map_cons, List.eraseDups_cons, hfilter, levels]

/-- The stops of another level are the same without those of a level. -/
theorem stopsAt_apartFrom {y : Float} (h : (z == y) = false) :
    stopsAt y (apartFrom z entries) = stopsAt y entries := by
  rw [stopsAt, stopsAt, apartFrom, List.filter_filter]
  congr 2
  funext entry
  cases hy : y == entry.1 with
  | false => rfl
  | true =>
    cases hz : z == entry.1 with
    | false => rfl
    | true =>
      rw [Double.beq_comm] at hy
      simp [Double.beq_trans hz hy] at h

theorem gather_cons (hz : z.isNaN = false) (stop : Json × Json)
    (entries : List (Float × Json × Json)) :
    gather ((z, stop) :: entries) =
      (z, stop :: stopsAt z entries) :: gather (apartFrom z entries) := by
  have hhead : stopsAt z ((z, stop) :: entries) = stop :: stopsAt z entries := by
    rw [stopsAt_cons, if_pos (Double.beq_self_iff.2 hz)]
  rw [gather, levels_cons, List.map_cons, hhead, gather]
  congr 1
  refine List.map_congr_left fun y hy => ?_
  obtain ⟨entry, he, rfl⟩ := exists_mem_of_mem_levels hy
  have hne : (z == entry.1) = false := by simpa using (List.mem_filter.1 he).2
  have hskip : stopsAt entry.1 ((z, stop) :: entries) = stopsAt entry.1 entries := by
    rw [stopsAt_cons, Double.beq_comm, hne, if_neg Bool.false_ne_true]
  rw [hskip, stopsAt_apartFrom hne]

/-! ## Grouping in one pass -/

/-- The groups that a pass leaves, from those that it starts with. -/
def groupFrom (groups : List (Float × List (Json × Json)))
    (entries : List (Float × Json × Json)) : List (Float × List (Json × Json)) :=
  entries.foldl (fun groups entry => addToGroup entry.1 entry.2 groups) groups

theorem groupFrom_cons_entry (groups : List (Float × List (Json × Json)))
    (entry : Float × Json × Json) (entries : List (Float × Json × Json)) :
    groupFrom groups (entry :: entries) = groupFrom (addToGroup entry.1 entry.2 groups) entries :=
  rfl

/-- The first group takes the stops of its level, and what follows is grouped without them. -/
theorem groupFrom_cons (z : Float) (inner : List (Json × Json))
    (groups : List (Float × List (Json × Json))) (entries : List (Float × Json × Json)) :
    groupFrom ((z, inner) :: groups) entries =
      (z, inner ++ stopsAt z entries) :: groupFrom groups (apartFrom z entries) := by
  induction entries generalizing inner groups with
  | nil => simp [groupFrom, stopsAt, apartFrom]
  | cons entry entries ih =>
    rw [groupFrom_cons_entry, addToGroup, stopsAt_cons, apartFrom_cons]
    cases z == entry.1 with
    | true =>
      rw [if_pos rfl, if_pos rfl, if_pos rfl, ih, List.append_assoc]
      rfl
    | false =>
      rw [if_neg Bool.false_ne_true, if_neg Bool.false_ne_true, if_neg Bool.false_ne_true, ih,
        groupFrom_cons_entry]

theorem groupFrom_nil (h : ∀ entry ∈ entries, entry.1.isNaN = false) :
    groupFrom [] entries = gather entries := by
  induction hn : entries.length using Nat.strong_induction_on generalizing entries with
  | h n ih =>
    match entries with
    | [] => rfl
    | (z, stop) :: entries =>
      obtain ⟨hz, hrest⟩ := List.forall_mem_cons.1 h
      have hlt : (apartFrom z entries).length < n :=
        hn ▸ Nat.lt_succ_of_le (List.length_filter_le _ _)
      have hapart : ∀ entry ∈ apartFrom z entries, entry.1.isNaN = false :=
        fun entry he => hrest entry (List.mem_filter.1 he).1
      rw [groupFrom_cons_entry, addToGroup, groupFrom_cons, ih _ hlt hapart rfl, gather_cons hz]
      rfl

/-! ## Keyed stops -/

/-- A stop has a level and a feature value in its input. -/
structure KeyedAs (stop : Json × Json) (entry : Float × Json × Json) : Prop where
  level : ∃ n, stop.1.member? "zoom" = some (.number n) ∧ n.toFloat = entry.1
  value : stop.1.member? "value" = some entry.2.1
  output : stop.2 = entry.2.2

theorem asFloat?_eq_some {value : Json} {x : Float} :
    value.asFloat? = some x ↔ ∃ n, value = .number n ∧ n.toFloat = x := by
  cases value <;> simp [Json.asFloat?]

theorem keyedInput_eq_ok {input : Json} {key : Float × Json} :
    keyedInput input = .ok key ↔
      (∃ n, input.member? "zoom" = some (.number n) ∧ n.toFloat = key.1) ∧
        input.member? "value" = some key.2 := by
  cases input with
  | object members =>
    have hz : (Json.object members).member? "zoom" = Table.get? members "zoom" := rfl
    have hv : (Json.object members).member? "value" = Table.get? members "value" := rfl
    have hlevel : (∃ n, Table.get? members "zoom" = some (.number n) ∧ n.toFloat = key.1) ↔
        (Table.get? members "zoom").bind Json.asFloat? = some key.1 := by
      rw [Option.bind_eq_some_iff]
      constructor
      · rintro ⟨n, hn, hx⟩
        exact ⟨_, hn, asFloat?_eq_some.2 ⟨n, rfl, hx⟩⟩
      · rintro ⟨value, hvalue, hx⟩
        obtain ⟨n, rfl, hn⟩ := asFloat?_eq_some.1 hx
        exact ⟨n, hvalue, hn⟩
    rw [hz, hv, hlevel, keyedInput]
    cases (Table.get? members "zoom").bind Json.asFloat? with
    | none => simp
    | some level =>
      cases Table.get? members "value" with
      | none => simp
      | some value => simp [Prod.ext_iff]
  | _ => simp [keyedInput, Json.member?, Json.asMembers?]

/-- Keyed stops are grouped to what their entries gather to. -/
theorem groupByZoom_eq_ok {stops : List (Json × Json)}
    {groups : List (Float × List (Json × Json))} :
    groupByZoom stops = .ok groups ↔
      ∃ entries, List.Forall₂ KeyedAs stops entries ∧ groupFrom [] entries = groups := by
  unfold groupByZoom
  generalize ([] : List (Float × List (Json × Json))) = start
  induction stops generalizing start with
  | nil =>
    constructor
    · intro h
      exact ⟨[], .nil, pure_eq_ok.1 h⟩
    · rintro ⟨entries, h, rfl⟩
      cases h
      rfl
  | cons stop stops ih =>
    rw [List.foldlM_cons, bind_eq_ok]
    constructor
    · rintro ⟨next, hn, h⟩
      obtain ⟨key, hk, hn⟩ := bind_eq_ok.1 hn
      obtain rfl := pure_eq_ok.1 hn
      obtain ⟨entries, he, rfl⟩ := (ih _).1 h
      obtain ⟨hlevel, hvalue⟩ := keyedInput_eq_ok.1 hk
      exact ⟨(key.1, key.2, stop.2) :: entries, .cons ⟨hlevel, hvalue, rfl⟩ he, rfl⟩
    · rintro ⟨entries, h, rfl⟩
      cases h with
      | @cons _ entry _ entries hs he =>
        have hk : keyedInput stop.1 = .ok (entry.1, entry.2.1) :=
          keyedInput_eq_ok.2 ⟨hs.level, hs.value⟩
        refine ⟨_, bind_eq_ok.2 ⟨_, hk, rfl⟩, (ih _).2 ⟨entries, he, ?_⟩⟩
        rw [groupFrom_cons_entry, hs.output]

end StyledMap.Declaration
