import StyledMap.Proofs.Document

/-! # Members that are fields

A field of a record is read from a member, which must be there or may be left out. What can be read
is said here without the reading, by the kinds of values that fit.

* `Json.IsString`, `Json.IsBool`, `Json.IsNatural`, `Json.IsNumber`, `Json.IsArray` and
  `Json.IsObject`: the kinds.
* `Json.Has` and `Json.MayHave`: a member that must be there, and one that may be left out.
* `Json.exists_required?` and `Json.exists_optional?`: exactly such members are read.
* `Json.given?` and `Json.optional?_eq_some`: a field that may be left out is what is found, where
  `null` is nothing.
-/

set_option autoImplicit false

namespace StyledMap.Json

/-! ## Kinds of values -/

def IsString (v : Json) : Prop :=
  ∃ s, v = string s

def IsBool (v : Json) : Prop :=
  ∃ b, v = bool b

/-- A value is a whole number that is not negative and fits 64 bits. -/
def IsNatural (v : Json) : Prop :=
  ∃ n, v = number (.natural n)

def IsNumber (v : Json) : Prop :=
  ∃ n, v = number n

/-- A value is an array of items that fit. -/
def IsArray (P : Json → Prop) (v : Json) : Prop :=
  ∃ items, v = array items ∧ ∀ item ∈ items, P item

/-- A value is an object with members that fit. -/
def IsObject (P : Table Json → Prop) (v : Json) : Prop :=
  ∃ members, v = object members ∧ P members

variable {v : Json}

theorem exists_asString? : (∃ s, v.asString? = some s) ↔ v.IsString :=
  exists_congr fun _ => asString?_eq_some

theorem exists_asFloat? : (∃ x, v.asFloat? = some x) ↔ v.IsNumber := by
  cases v <;> simp [asFloat?, IsNumber]

theorem exists_asMembers? : (∃ members, v.asMembers? = some members) ↔
    v.IsObject fun _ => True := by
  simp [asMembers?_eq_some, IsObject]

/-! ## Members -/

/-- A member is there, and fits. -/
def Has (members : Table Json) (key : String) (P : Json → Prop) : Prop :=
  ∃ v, members.get? key = some v ∧ P v

/-- A member is absent, or `null`, or it fits. -/
def MayHave (members : Table Json) (key : String) (P : Json → Prop) : Prop :=
  ∀ v, members.get? key = some v → v = null ∨ P v

variable {β : Type} {read : Json → Option β} {members : Table Json} {key : String}
  {P : Json → Prop}

theorem exists_required? (h : ∀ v, (∃ b, read v = some b) ↔ P v) :
    (∃ b, required? read members key = some b) ↔ Has members key P := by
  unfold required?
  cases hget : members.get? key with
  | none => simp [Has, hget]
  | some v => simp [Has, hget, h]

theorem exists_optional? (h : ∀ v, (∃ b, read v = some b) ↔ P v) :
    (∃ b, optional? read members key = some b) ↔ MayHave members key P := by
  unfold optional?
  split
  · next hget => simp [MayHave, hget]
  · next hget => simp [MayHave, hget]
  · next v hne hget =>
    have hnull : v ≠ null := hne
    simp [MayHave, hget, hnull, ← h]

theorem exists_required_string : (∃ s, required? asString? members key = some s) ↔
    Has members key IsString :=
  exists_required? fun _ => exists_asString?

theorem exists_optional_string : (∃ s, optional? asString? members key = some s) ↔
    MayHave members key IsString :=
  exists_optional? fun _ => exists_asString?

theorem exists_optional_number : (∃ x, optional? asFloat? members key = some x) ↔
    MayHave members key IsNumber :=
  exists_optional? fun _ => exists_asFloat?

theorem exists_optional_object : (∃ inner, optional? asMembers? members key = some inner) ↔
    MayHave members key (IsObject fun _ => True) :=
  exists_optional? fun _ => exists_asMembers?

/-! ## Where `null` is nothing -/

/-- What is found under a key, where `null` is nothing. -/
def given? (members : Table Json) (key : String) : Option Json :=
  (members.get? key).filter fun v => !v.isNull

theorem given?_eq_none (h : members.get? key = none ∨ members.get? key = some null) :
    given? members key = none := by
  rcases h with h | h <;> rw [given?, h] <;> rfl

theorem given?_eq_self (h : members.get? key = some v)
    (hnull : v ≠ null) : given? members key = some v := by
  rw [given?, h, Option.filter_some]
  cases v with
  | null => exact absurd rfl hnull
  | _ => rfl

theorem optional?_of_given?_eq_none (h : given? members key = none) :
    optional? read members key = some none := by
  unfold optional?
  split
  · rfl
  · rfl
  · next v hne hget => simp [given?_eq_self hget hne] at h

theorem optional?_of_given? (h : given? members key = some v) :
    optional? read members key = (read v).map some := by
  unfold optional?
  split
  · next hget => simp [given?_eq_none (.inl hget)] at h
  · next hget => simp [given?_eq_none (.inr hget)] at h
  · next w hne hget =>
    rw [given?_eq_self hget hne] at h
    rw [Option.some.inj h]

/-- A field that may be left out is read as what is given. -/
theorem optional?_eq_some {write : β → Json} {value : Option β}
    (h : ∀ v w, read v = some w ↔ v = write w) :
    optional? read members key = some value ↔ given? members key = value.map write := by
  cases hgiven : given? members key with
  | none =>
    rw [optional?_of_given?_eq_none hgiven]
    cases value <;> simp
  | some v =>
    rw [optional?_of_given? hgiven]
    cases value <;> simp [h]

/-- A field of any value is read as it is given. -/
theorem optional?_some_eq_some {value : Option Json} :
    optional? some members key = some value ↔ given? members key = value := by
  have h : optional? some members key = some value ↔ given? members key = value.map id :=
    optional?_eq_some fun _ _ => Option.some_inj
  rwa [Option.map_id, id] at h

end StyledMap.Json
