import StyledMap.Proofs.Selector.Meaning

/-! # What filters read

A filter reads a feature at the keys it names. Two features that agree there are selected both or
neither, whatever else they hold: a property called `$type` or `$id` is never read.

* `Agree`: two readings of a key are absent, or one value. A zero may have either sign.
* `Selector.keys` and `selects_congr`: a selector reads its keys only.
* `Expression.keys`: the keys that an expression names, the reserved ones among them. Operators and
  literals are no keys.
* `keys_of_ofJson`: the keys of an expression are those of the selector that is read from it.
* `AgreeOn` and `selects_eq_of_agreeOn`: two features that agree at the keys of a filter.
-/

set_option autoImplicit false

namespace StyledMap

/-! ## Readings that agree -/

/-- Two readings are the same, or values that are equal. -/
def Agree (x y : Option Json) : Prop :=
  x = y ∨ (x == y) = true

theorem compareDoubles?_congr {x y : Float} (h : (x == y) = true) (z : Float) :
    compareDoubles? x z = compareDoubles? y z := by
  rw [Double.beq_iff_rank_eq] at h
  obtain ⟨hx, hy, hr⟩ := h
  have hlt : x < z ↔ y < z := by
    rw [Double.lt_iff_rank_lt, Double.lt_iff_rank_lt, hx, hy, hr]
  have heq : (x == z) = (y == z) := by
    rw [Bool.eq_iff_iff, Double.beq_iff_rank_eq, Double.beq_iff_rank_eq, hx, hy, hr]
  have hgt : z < x ↔ z < y := by
    rw [Double.lt_iff_rank_lt, Double.lt_iff_rank_lt, hx, hy, hr]
  simp only [compareDoubles?, hlt, heq, hgt]

namespace Scalar

/-- Two scalars are the same, or equal doubles. -/
def Same : Scalar → Scalar → Prop
  | number x, number y => x = y ∨ (x == y) = true
  | s, t => s = t

theorem same_refl (s : Scalar) : s.Same s := by
  cases s with
  | number x => exact .inl rfl
  | _ => rfl

variable {s t : Scalar}

theorem eq_or_of_same (h : s.Same t) :
    s = t ∨ ∃ x y, s = number x ∧ t = number y ∧ (x == y) = true := by
  cases s with
  | number x =>
    cases t with
    | number y =>
      obtain rfl | h := h
      · exact .inl rfl
      · exact .inr ⟨x, y, rfl, rfl, h⟩
    | _ => exact .inl h
  | _ => exact .inl h

theorem compare?_congr (h : s.Same t) (literal : Scalar) :
    s.compare? literal = t.compare? literal := by
  obtain rfl | ⟨x, y, rfl, rfl, hxy⟩ := eq_or_of_same h
  · rfl
  · cases literal with
    | number z => exact compareDoubles?_congr hxy z
    | _ => rfl

theorem contains_congr (h : s.Same t) (set : ScalarSet) : set.contains s = set.contains t := by
  obtain rfl | ⟨x, y, rfl, rfl, hxy⟩ := eq_or_of_same h
  · rfl
  · have hx : x.isNaN = false := (Double.beq_iff_rank_eq.1 hxy).1
    have hbits : Double.valueBits x = Double.valueBits y :=
      (Double.beq_iff_valueBits_eq hx).1 hxy
    rw [ScalarSet.contains, ScalarSet.contains, hbits]

/-- Equal values are both scalars or neither. -/
theorem same_of_beq {u v : Json} (h : (u == v) = true) :
    Option.Rel Same (ofJson? u) (ofJson? v) := by
  change Json.beq u v = true at h
  cases u <;> cases v <;> simp only [Json.beq, Bool.false_eq_true, beq_iff_eq] at h
  case null.null => exact .some (same_refl _)
  case bool.bool => exact h ▸ .some (same_refl _)
  case string.string => exact h ▸ .some (same_refl _)
  case array.array => exact .none
  case object.object => exact .none
  case number.number m n =>
    refine .some ?_
    change Number.beq m n = true at h
    cases m <;> cases n <;> simp only [Number.beq, Bool.false_eq_true, beq_iff_eq] at h
    case natural.natural => exact h ▸ same_refl _
    case negative.negative => exact h ▸ same_refl _
    case double.double => exact .inr h

end Scalar

variable {x y : Option Json}

theorem Agree.isSome_eq (h : Agree x y) : x.isSome = y.isSome := by
  obtain rfl | h := h
  · rfl
  · cases x <;> cases y <;> simp_all

theorem Agree.scalars (h : Agree x y) :
    Option.Rel Scalar.Same (x.bind Scalar.ofJson?) (y.bind Scalar.ofJson?) := by
  obtain rfl | h := h
  · cases x.bind Scalar.ofJson? with
    | none => exact .none
    | some s => exact .some (Scalar.same_refl s)
  · cases x with
    | none =>
      cases y with
      | none => exact .none
      | some v => simp at h
    | some u =>
      cases y with
      | none => simp at h
      | some v => exact Scalar.same_of_beq (by simpa using h)

/-! ## Selectors -/

namespace Selector

mutual

/-- The keys at which a selector reads a feature. -/
def keys : Selector → List Key
  | constant _ => []
  | compares key _ _ | isMember key _ | isNotMember key _ | has key | hasNot key => [key]
  | allOf parts | anyOf parts | noneOf parts => keysOfParts parts

def keysOfParts : List Selector → List Key
  | [] => []
  | p :: ps => keys p ++ keysOfParts ps

end

section

variable {f g : Feature}

theorem holdsMember_congr {key : Key} (h : Agree (key.read? f) (key.read? g))
    (literals : ScalarSet) : holdsMember key literals f = holdsMember key literals g := by
  have hs : Option.Rel Scalar.Same (key.scalar? f) (key.scalar? g) := h.scalars
  rw [holdsMember, holdsMember]
  generalize key.scalar? f = a, key.scalar? g = b at hs ⊢
  cases hs with
  | none => rfl
  | some hs => exact Scalar.contains_congr hs literals

theorem compare?_scalar_congr {key : Key} (h : Agree (key.read? f) (key.read? g))
    (literal : Scalar) :
    ((key.scalar? f).bind fun s => s.compare? literal) =
      (key.scalar? g).bind fun s => s.compare? literal := by
  have hs : Option.Rel Scalar.Same (key.scalar? f) (key.scalar? g) := h.scalars
  generalize key.scalar? f = a, key.scalar? g = b at hs ⊢
  cases hs with
  | none => rfl
  | some hs => exact Scalar.compare?_congr hs literal

mutual

/-- A selector selects two features both or neither, when they agree at its keys. -/
theorem selects_congr {s : Selector} (h : ∀ key ∈ s.keys, Agree (key.read? f) (key.read? g)) :
    s.selects f = s.selects g := by
  match s with
  | constant b => rfl
  | compares key comparison literal =>
    have hk := compare?_scalar_congr (h key List.mem_cons_self) literal
    rw [selects, selects, hk]
  | isMember key literals => exact holdsMember_congr (h key List.mem_cons_self) literals
  | isNotMember key literals =>
    exact congrArg (!·) (holdsMember_congr (h key List.mem_cons_self) literals)
  | has key => exact (h key List.mem_cons_self).isSome_eq
  | hasNot key => exact congrArg (!·) (h key List.mem_cons_self).isSome_eq
  | allOf parts => exact selectsAll_congr h
  | anyOf parts => exact selectsAny_congr h
  | noneOf parts => exact congrArg (!·) (selectsAny_congr h)

theorem selectsAll_congr {parts : List Selector}
    (h : ∀ key ∈ keysOfParts parts, Agree (key.read? f) (key.read? g)) :
    selectsAll f parts = selectsAll g parts := by
  match parts with
  | [] => rfl
  | p :: ps =>
    obtain ⟨hp, hps⟩ := List.forall_mem_append.1 h
    rw [selectsAll, selectsAll, selects_congr hp, selectsAll_congr hps]

theorem selectsAny_congr {parts : List Selector}
    (h : ∀ key ∈ keysOfParts parts, Agree (key.read? f) (key.read? g)) :
    selectsAny f parts = selectsAny g parts := by
  match parts with
  | [] => rfl
  | p :: ps =>
    obtain ⟨hp, hps⟩ := List.forall_mem_append.1 h
    rw [selectsAny, selectsAny, selects_congr hp, selectsAny_congr hps]

end

end

end Selector

/-! ## Expressions -/

namespace Expression

/-- The key in front of literals. -/
def leafKeys : List Json → List String
  | .string key :: _ => [key]
  | _ => []

mutual

/-- The keys that an expression names. -/
def keys : Json → List String
  | .array (.string operator :: operands) =>
    match operator with
    | "all" | "any" | "none" => keysOfItems operands
    | _ => leafKeys operands
  | _ => []

def keysOfItems : List Json → List String
  | [] => []
  | e :: es => keys e ++ keysOfItems es

end

/-- The keys that a filter names; an absent filter names none. -/
def filterKeys (filter : Option Json) : List String :=
  filter.elim [] keys

section

variable {s : Selector} {operands : List Json}

theorem keys_of_comparisonOf {operator : String} {c : Comparison}
    (h : Selector.comparisonOf operator c operands = .ok s) :
    s.keys = (leafKeys operands).map Key.ofName := by
  unfold Selector.comparisonOf at h
  split at h
  · obtain ⟨key, hk, h⟩ := Reading.bind_eq_ok.1 h
    obtain ⟨t, -, h⟩ := Reading.bind_eq_ok.1 h
    obtain ⟨name, rfl, rfl⟩ := ofJson_key hk
    obtain rfl := Reading.pure_eq_ok.1 h
    rfl
  · simp at h

theorem key_of_membershipOf {key : Key} {literals : ScalarSet}
    (h : Selector.membershipOf operands = .ok (key, literals)) :
    [key] = (leafKeys operands).map Key.ofName := by
  unfold Selector.membershipOf at h
  split at h
  · simp at h
  · obtain ⟨k, hk, h⟩ := Reading.bind_eq_ok.1 h
    obtain ⟨scalars, -, h⟩ := Reading.bind_eq_ok.1 h
    obtain ⟨name, rfl, rfl⟩ := ofJson_key hk
    obtain ⟨rfl, -⟩ := Prod.mk.inj (Reading.pure_eq_ok.1 h)
    rfl

theorem key_of_presenceOf {key : Key} (h : Selector.presenceOf operands = .ok key) :
    [key] = (leafKeys operands).map Key.ofName := by
  unfold Selector.presenceOf at h
  split at h
  · obtain ⟨name, rfl, rfl⟩ := ofJson_key h
    rfl
  · simp at h

theorem keys_of_leafOf {operator : String} (h : Selector.leafOf operator operands = .ok s) :
    s.keys = (leafKeys operands).map Key.ofName := by
  unfold Selector.leafOf at h
  split at h
  · exact keys_of_comparisonOf h
  · split at h
    · obtain ⟨⟨key, literals⟩, hm, rfl⟩ := Reading.map_eq_ok.1 h
      exact key_of_membershipOf hm
    · obtain ⟨⟨key, literals⟩, hm, rfl⟩ := Reading.map_eq_ok.1 h
      exact key_of_membershipOf hm
    · obtain ⟨key, hk, rfl⟩ := Reading.map_eq_ok.1 h
      exact key_of_presenceOf hk
    · obtain ⟨key, hk, rfl⟩ := Reading.map_eq_ok.1 h
      exact key_of_presenceOf hk
    · simp at h

theorem keys_leaf {operator : String}
    (h : operator ≠ "all" ∧ operator ≠ "any" ∧ operator ≠ "none") (operands : List Json) :
    keys (.array (.string operator :: operands)) = leafKeys operands := by
  rw [keys]
  · exact h.1
  · exact h.2.1
  · exact h.2.2

mutual

/-- A selector reads at the keys that its expression names, in the same order. -/
theorem keys_of_ofJson {e : Json} {s : Selector} (h : Selector.ofJson e = .ok s) :
    s.keys = (keys e).map Key.ofName := by
  match e with
  | .bool b =>
    obtain rfl : .constant b = s := by simpa [Selector.ofJson] using h
    rfl
  | .array (.string operator :: operands) =>
    unfold Selector.ofJson at h
    split at h
    · obtain ⟨parts, hparts, rfl⟩ := Reading.map_eq_ok.1 h
      exact keys_of_ofItems hparts
    · obtain ⟨parts, hparts, rfl⟩ := Reading.map_eq_ok.1 h
      exact keys_of_ofItems hparts
    · obtain ⟨parts, hparts, rfl⟩ := Reading.map_eq_ok.1 h
      exact keys_of_ofItems hparts
    · next hall hany hnone =>
      rw [keys_leaf ⟨hall, hany, hnone⟩]
      exact keys_of_leafOf h
  | .array [] | .array (.null :: _) | .array (.bool _ :: _) | .array (.number _ :: _)
  | .array (.array _ :: _) | .array (.object _ :: _) => simp [Selector.ofJson] at h
  | .null | .number _ | .string _ | .object _ => simp [Selector.ofJson] at h

theorem keys_of_ofItems {es : List Json} {parts : List Selector}
    (h : Selector.ofItems es = .ok parts) :
    Selector.keysOfParts parts = (keysOfItems es).map Key.ofName := by
  match es with
  | [] =>
    obtain rfl : [] = parts := by simpa [Selector.ofItems] using h
    rfl
  | e :: es =>
    obtain ⟨part, rest, he, hes, rfl⟩ := ofItems_cons h
    rw [Selector.keysOfParts, keysOfItems, List.map_append, keys_of_ofJson he,
      keys_of_ofItems hes]

end

theorem keys_of_ofFilter {filter : Option Json} (h : Selector.ofFilter filter = .ok s) :
    s.keys = (filterKeys filter).map Key.ofName := by
  unfold Selector.ofFilter at h
  split at h
  · obtain rfl := Except.ok.inj h
    rfl
  · obtain rfl := Except.ok.inj h
    rfl
  · exact keys_of_ofJson (Reading.mapError_eq_ok.1 h)

end

/-! ## Features that agree -/

/-- Two features agree at keys. What the reserved keys stand for counts only where they are among
the keys, and properties of these names never do. -/
structure AgreeOn (keys : List String) (f g : Feature) : Prop where
  geometry : "$type" ∈ keys → f.geometry = g.geometry
  id : "$id" ∈ keys → Agree f.id g.id
  property : ∀ name ∈ keys, name ≠ "$type" → name ≠ "$id" →
    Agree (f.property? name) (g.property? name)

theorem AgreeOn.read? {keys : List String} {f g : Feature} (h : AgreeOn keys f g) {name : String}
    (hn : name ∈ keys) : Agree ((Key.ofName name).read? f) ((Key.ofName name).read? g) := by
  rw [read?_ofName, read?_ofName, valueOf?, valueOf?]
  by_cases ht : name = "$type"
  · rw [if_pos ht, if_pos ht, h.geometry (ht ▸ hn)]
    exact .inl rfl
  · rw [if_neg ht, if_neg ht]
    by_cases hi : name = "$id"
    · rw [if_pos hi, if_pos hi]
      exact h.id (hi ▸ hn)
    · rw [if_neg hi, if_neg hi]
      exact h.property name hn ht hi

/-- A filter selects two features both or neither, when they agree at the keys that it names. -/
theorem selects_eq_of_agreeOn {filter : Option Json} {s : Selector}
    (hs : Selector.ofFilter filter = .ok s) {f g : Feature}
    (h : AgreeOn (filterKeys filter) f g) : s.selects f = s.selects g := by
  have hkeys := keys_of_ofFilter hs
  refine Selector.selects_congr fun key hk => ?_
  rw [hkeys] at hk
  obtain ⟨name, hn, rfl⟩ := List.mem_map.1 hk
  exact h.read? hn

/-- Two points that differ in their ids, in the sign of a zero, and in properties of which one is
called as the key of the geometry class and one as a literal of the filter. -/
theorem selects_eq_of_agreeOn_points :
    let filter : Json := .array [.string "all",
      .array [.string "!in", .string "$type", .string "Polygon", .string "class"],
      .array [.string "none", .array [.string "has", .string "name"],
        .array [.string "<", .string "level", .number (.natural 0)]]]
    let f : Feature := ⟨some (.string "a"), .point,
      [("$type", .string "Polygon"), ("level", .number (.double 0.0))]⟩
    let g : Feature := ⟨none, .point,
      [("class", .null), ("level", .number (.double (-0.0)))]⟩
    filterKeys (some filter) = ["$type", "name", "level"] ∧
      ∃ s, Selector.ofFilter (some filter) = .ok s ∧ AgreeOn (filterKeys (some filter)) f g ∧
        s.selects f = s.selects g := by
  intro filter f g
  have hkeys : filterKeys (some filter) = ["$type", "name", "level"] := rfl
  have hagree : AgreeOn (filterKeys (some filter)) f g := by
    rw [hkeys]
    refine ⟨fun _ => rfl, fun hid => absurd hid (by decide), fun name hn ht _ => ?_⟩
    obtain rfl | rfl | rfl : name = "$type" ∨ name = "name" ∨ name = "level" := by simpa using hn
    · exact absurd rfl ht
    · exact .inl rfl
    · exact .inr (by decide)
  exact ⟨hkeys, _, rfl, hagree, selects_eq_of_agreeOn rfl hagree⟩

end Expression

end StyledMap
