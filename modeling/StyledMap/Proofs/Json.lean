import StyledMap.Json.Written
import StyledMap.Proofs.Double.Rounding
import StyledMap.Proofs.Table

/-! # Values of texts

A double need not be a number, but no text of JSON writes one that is none. A list of members need
not be sorted, but the members of an object are when it is read from a text.

* `isProper` on numbers and values: every double inside is a number.
* `NumberLiteral.isProper_of_toNumber?`: literals are scaled by regular powers of ten only, so
  what they are read as is proper.
* `isOrdered` on values: every object inside has each member once, in the order of their names.
* `Json.Inherited` and `Written.holds_of_toJson?`: what a value has when all that stands in it does,
  every value of a text has.
* `Json.isProper_of_parse?` and `Json.isOrdered_of_parse?`: a value that is read from a text is
  proper and ordered.
-/

set_option autoImplicit false

namespace StyledMap

/-- Whether a JSON number is a number; only a double can fail to be one. -/
def Number.isProper : Number → Bool
  | double x => !x.isNaN
  | _ => true

theorem Number.isProper_double {x : Float} : (double x).isProper = true ↔ x.isNaN = false := by
  rw [isProper, Bool.not_eq_true']

theorem Number.isNaN_toFloat {n : Number} (h : n.isProper = true) : n.toFloat.isNaN = false := by
  cases n with
  | natural n =>
    rw [toFloat]
    exact Double.isNaN_toFloat n
  | negative n =>
    rw [toFloat]
    split
    · exact Double.isNaN_neg (Double.isNaN_toFloat _)
    · exact Double.isNaN_toFloat _
  | double x => exact isProper_double.1 h

namespace Json

mutual

/-- Whether every double in a value is a number. -/
def isProper : Json → Bool
  | null | bool _ | string _ => true
  | number n => n.isProper
  | array items => areProper items
  | object members => areProperMembers members

def areProper : List Json → Bool
  | [] => true
  | v :: vs => isProper v && areProper vs

def areProperMembers : List (String × Json) → Bool
  | [] => true
  | (_, v) :: vs => isProper v && areProperMembers vs

end

theorem areProper_iff {values : List Json} :
    areProper values = true ↔ ∀ v ∈ values, v.isProper = true := by
  induction values with
  | nil => simp [areProper]
  | cons v vs ih => simp [areProper, ih]

theorem areProperMembers_iff {members : List (String × Json)} :
    areProperMembers members = true ↔ ∀ entry ∈ members, entry.2.isProper = true := by
  induction members with
  | nil => simp [areProperMembers]
  | cons entry rest ih =>
    obtain ⟨key, v⟩ := entry
    simp [areProperMembers, ih]

mutual

/-- Whether every object in a value has each member once, in the order of their names. -/
def isOrdered : Json → Bool
  | null | bool _ | number _ | string _ => true
  | array items => areOrdered items
  | object members => decide (Table.IsSorted members) && areOrderedMembers members

def areOrdered : List Json → Bool
  | [] => true
  | v :: vs => isOrdered v && areOrdered vs

def areOrderedMembers : List (String × Json) → Bool
  | [] => true
  | (_, v) :: vs => isOrdered v && areOrderedMembers vs

end

theorem isOrdered_array {items : List Json} :
    (array items).isOrdered = true ↔ ∀ v ∈ items, v.isOrdered = true := by
  rw [isOrdered]
  induction items with
  | nil => simp [areOrdered]
  | cons v vs ih => simp [areOrdered, ih]

theorem isOrdered_object {members : Table Json} : (object members).isOrdered = true ↔
    members.IsSorted ∧ ∀ entry ∈ members, entry.2.isOrdered = true := by
  have hall : areOrderedMembers members = true ↔ ∀ entry ∈ members, entry.2.isOrdered = true := by
    induction members with
    | nil => simp [areOrderedMembers]
    | cons entry rest ih =>
      obtain ⟨key, v⟩ := entry
      simp [areOrderedMembers, ih]
  rw [isOrdered, Bool.and_eq_true, decide_eq_true_eq, hall]

end Json

/-! ## Number literals -/

namespace NumberLiteral

theorem isRegular_powerOfTen {n : Nat} (h : n ≤ 308) :
    Double.isRegular (powerOfTen n).toModel.unpack = true := by
  by_cases hs : n ≤ 22
  · have hall : ∀ m ≤ 22, Double.isRegular (powerOfTen m).toModel.unpack = true := by
      decide +kernel
    exact hall n hs
  · have hp : powerOfTen n = .ofModel (Float.Model.ofScientific 1 n) := by
      rw [powerOfTen, Float.ofScientific, dif_neg (fun h => hs h.2)]
      rfl
    rw [hp]
    rcases Nat.lt_or_eq_of_le h with h | rfl
    · exact Double.isRegular_ofScientific (by omega)
    · decide +kernel

theorem isNaN_of_scale? {rounds : Nat} {x y : Float} {exponent : Int} (hx : x.isNaN = false)
    (h : scale? rounds x exponent = some y) : y.isNaN = false := by
  induction rounds generalizing x exponent with
  | zero => rwa [← Option.some.inj h]
  | succ rounds ih =>
    unfold scale? at h
    split at h
    · next he =>
      split at h
      · simp only at h
        split at h
        · simp at h
        · rw [← Option.some.inj h]
          exact Double.isNaN_mul hx (isRegular_powerOfTen he)
      · rw [← Option.some.inj h]
        exact Double.isNaN_div hx (isRegular_powerOfTen he)
    · split at h
      · rwa [← Option.some.inj h]
      · split at h
        · simp at h
        · exact ih (Double.isNaN_div hx (isRegular_powerOfTen (Nat.le_refl 308))) h

theorem isNaN_of_doubleOf? {negative : Bool} {significand : Nat} {exponent : Int} {x : Float}
    (h : doubleOf? negative significand exponent = some x) : x.isNaN = false := by
  obtain ⟨y, hy, rfl⟩ := Option.map_eq_some_iff.1 h
  have hn : y.isNaN = false := isNaN_of_scale? (Double.isNaN_toFloat _) hy
  split
  · exact Double.isNaN_neg hn
  · exact hn

theorem isProper_of_toNumber? {l : NumberLiteral} {n : Number} (h : l.toNumber? = some n) :
    n.isProper = true := by
  unfold toNumber? at h
  simp only at h
  split at h
  · split at h
    · rw [← Option.some.inj h]
      rfl
    · split at h
      · rw [← Option.some.inj h]
        rfl
      · rw [← Option.some.inj h]
        exact Number.isProper_double.2 (Double.isNaN_neg (Double.isNaN_toFloat _))
  · split at h
    · obtain ⟨x, hx, rfl⟩ := Option.map_eq_some_iff.1 h
      exact Number.isProper_double.2 (isNaN_of_doubleOf? hx)
    · split at h
      · split at h
        · simp at h
        · rw [← Option.some.inj h]
          cases l.negative <;> decide
      · obtain ⟨x, hx, rfl⟩ := Option.map_eq_some_iff.1 h
        exact Number.isProper_double.2 (isNaN_of_doubleOf? hx)

end NumberLiteral

/-! ## Values of texts -/

/-- A property that a value of a text has when all that stands in it does. -/
structure Json.Inherited (P : Json → Prop) : Prop where
  null : P .null
  bool (b : Bool) : P (.bool b)
  number {l : NumberLiteral} {n : Number} : l.toNumber? = some n → P (.number n)
  string (s : String) : P (.string s)
  array {items : List Json} : (∀ v ∈ items, P v) → P (.array items)
  object {members : Table Json} : members.IsSorted → (∀ entry ∈ members, P entry.2) →
    P (.object members)

namespace Written

variable {P : Json → Prop}

mutual

theorem holds_of_toJson? (hP : Json.Inherited P) {depth : Nat} {w : Written} {v : Json}
    (h : w.toJson? depth = some v) : P v := by
  match w with
  | .null =>
    rw [← Option.some.inj h]
    exact hP.null
  | .bool b =>
    rw [← Option.some.inj h]
    exact hP.bool b
  | .number l =>
    obtain ⟨n, hn, rfl⟩ := Option.map_eq_some_iff.1 h
    exact hP.number hn
  | .string s =>
    obtain ⟨s, -, rfl⟩ := Option.map_eq_some_iff.1 h
    exact hP.string s
  | .array items =>
    unfold toJson? at h
    split at h
    · simp at h
    · obtain ⟨vs, hvs, rfl⟩ := Option.map_eq_some_iff.1 h
      exact hP.array (holds_of_itemsToJson? hP hvs)
  | .object entries =>
    unfold toJson? at h
    split at h
    · simp at h
    · obtain ⟨es, hes, rfl⟩ := Option.map_eq_some_iff.1 h
      refine hP.object (Table.isSorted_ofList es) fun entry he => ?_
      -- the members of the table are among the entries of the text
      exact holds_of_entriesToJson? hP hes entry ((Table.mem_extend he).resolve_right (by simp))

theorem holds_of_itemsToJson? (hP : Json.Inherited P) {depth : Nat} {ws : List Written}
    {vs : List Json} (h : itemsToJson? depth ws = some vs) : ∀ v ∈ vs, P v := by
  match ws with
  | [] =>
    rw [← Option.some.inj h]
    simp
  | w :: ws =>
    unfold itemsToJson? at h
    split at h
    · simp at h
    · next v hv =>
      obtain ⟨vs, hvs, rfl⟩ := Option.map_eq_some_iff.1 h
      exact List.forall_mem_cons.2 ⟨holds_of_toJson? hP hv, holds_of_itemsToJson? hP hvs⟩

theorem holds_of_entriesToJson? (hP : Json.Inherited P) {depth : Nat}
    {ws : List (Option String × Written)} {es : List (String × Json)}
    (h : entriesToJson? depth ws = some es) : ∀ entry ∈ es, P entry.2 := by
  match ws with
  | [] =>
    rw [← Option.some.inj h]
    simp
  | (key, w) :: ws =>
    unfold entriesToJson? at h
    split at h
    · next k v hv =>
      obtain ⟨es, hes, rfl⟩ := Option.map_eq_some_iff.1 h
      exact List.forall_mem_cons.2 ⟨holds_of_toJson? hP hv, holds_of_entriesToJson? hP hes⟩
    · simp at h

end

end Written

namespace Json

variable {text : String} {v : Json}

theorem inherited_isProper : Inherited fun v => v.isProper = true where
  null := rfl
  bool _ := rfl
  number := NumberLiteral.isProper_of_toNumber?
  string _ := rfl
  array := areProper_iff.2
  object _ := areProperMembers_iff.2

theorem inherited_isOrdered : Inherited fun v => v.isOrdered = true where
  null := rfl
  bool _ := rfl
  number _ := rfl
  string _ := rfl
  array := isOrdered_array.2
  object hs hall := isOrdered_object.2 ⟨hs, hall⟩

theorem holds_of_parse? {P : Json → Prop} (hP : Inherited P) (h : parse? text = some v) : P v := by
  obtain ⟨w, -, hw⟩ := Option.bind_eq_some_iff.1 h
  exact Written.holds_of_toJson? hP hw

/-- A value that is read from a text is proper. -/
theorem isProper_of_parse? (h : parse? text = some v) : v.isProper = true :=
  holds_of_parse? inherited_isProper h

/-- A value that is read from a text is ordered. -/
theorem isOrdered_of_parse? (h : parse? text = some v) : v.isOrdered = true :=
  holds_of_parse? inherited_isOrdered h

end Json

end StyledMap
