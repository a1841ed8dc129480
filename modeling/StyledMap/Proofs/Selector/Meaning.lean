import StyledMap.Proofs.Reading
import StyledMap.Proofs.Selector.Scalars

/-! # The meaning of filter expressions

An expression can be read off directly, without a selector: by recursion on the expression, with
the values of the feature as they stand in it.

* `equals` and `precedes` compare two values. Values of different types, arrays and objects neither
  equal nor precede anything.
* `relates` says what an operator states about the value of its key, and `holds` whether an
  expression holds of a feature.
* `selects_of_ofFilter`: the selector that is read from a filter selects the features of which the
  filter holds. The filter has to be proper, as every value is that `Json.parse?` reads.
-/

set_option autoImplicit false

namespace StyledMap.Expression

/-- What a key of an expression reads from a feature. The two reserved keys never read a property.
-/
def valueOf? (f : Feature) (key : String) : Option Json :=
  if key = "$type" then some (.string f.geometry.name)
  else if key = "$id" then f.id
  else f.property? key

/-- Whether two values of one type are equal; numbers are compared as doubles. -/
def equals : Json → Json → Bool
  | .null, .null => true
  | .bool a, .bool b => a == b
  | .number m, .number n => m.toFloat == n.toFloat
  | .string s, .string t => s == t
  | _, _ => false

/-- Whether the first of two values of one type comes before the second. -/
def precedes : Json → Json → Bool
  | .bool a, .bool b => !a && b
  | .number m, .number n => m.toFloat < n.toFloat
  | .string s, .string t => s < t
  | _, _ => false

/-- The literals of a membership test: its operands, or the items of an array that stands alone. -/
def listed : List Json → List Json
  | [.array items] => items
  | operands => operands

/-- Whether some listed literal equals the value of a key. -/
def isListed (value : Option Json) (operands : List Json) : Bool :=
  value.any fun v => (listed operands).any (equals v)

/-- What an operator states about the value of its key, given the operands after the key. -/
def relates (value : Option Json) : String → List Json → Bool
  | "==", [literal] => value.any (equals · literal)
  | "!=", [literal] => !value.any (equals · literal)
  | "<", [literal] => value.any (precedes · literal)
  | "<=", [literal] => value.any fun v => precedes v literal || equals v literal
  | ">", [literal] => value.any (precedes literal ·)
  | ">=", [literal] => value.any fun v => precedes literal v || equals v literal
  | "in", operands => isListed value operands
  | "!in", operands => !isListed value operands
  | "has", [] => value.isSome
  | "!has", [] => value.isNone
  | _, _ => false

mutual

/-- Whether an expression holds of a feature. -/
def holds (f : Feature) : Json → Bool
  | .bool b => b
  | .array (.string operator :: operands) =>
    match operator with
    | "all" => holdsAll f operands
    | "any" => holdsAny f operands
    | "none" => !holdsAny f operands
    | _ =>
      match operands with
      | .string key :: literals => relates (valueOf? f key) operator literals
      | _ => false
  | _ => false

def holdsAll (f : Feature) : List Json → Bool
  | [] => true
  | e :: es => holds f e && holdsAll f es

def holdsAny (f : Feature) : List Json → Bool
  | [] => false
  | e :: es => holds f e || holdsAny f es

end

/-- Whether a filter holds of a feature; an absent filter and `null` hold of every feature. -/
def filterHolds (f : Feature) : Option Json → Bool
  | none | some .null => true
  | some e => holds f e

/-! ## Values and literals -/

theorem read?_ofName (name : String) (f : Feature) :
    (Key.ofName name).read? f = valueOf? f name := by
  unfold Key.ofName valueOf?
  split
  · rfl
  · rfl
  · next h h' => rw [if_neg h, if_neg h']; rfl

/-- The order of the value of a key and a literal. -/
def order? (value : Option Json) (literal : Scalar) : Option Ordering :=
  (value.bind Scalar.ofJson?).bind (·.compare? literal)

theorem compare_bool_eq_lt {a b : Bool} : compare a b = .lt ↔ a = false ∧ b = true := by
  cases a <;> cases b <;> decide

theorem compare_bool_eq_gt {a b : Bool} : compare a b = .gt ↔ b = false ∧ a = true := by
  cases a <;> cases b <;> decide

theorem compare_string_eq_lt {s t : String} : compare s t = .lt ↔ s < t :=
  compareOfLessAndEq_eq_lt

theorem compare_string_eq_gt {s t : String} : compare s t = .gt ↔ t < s :=
  compareOfLessAndEq_eq_gt String.le_antisymm String.le_total String.not_le s t

/-- Whether a value stands in an order to a literal. -/
def related : Ordering → Json → Json → Bool
  | .eq, v, literal => equals v literal
  | .lt, v, literal => precedes v literal
  | .gt, v, literal => precedes literal v

theorem order?_beq {literal : Json} {t : Scalar} (ht : Scalar.ofJson? literal = some t)
    (o : Ordering) (value : Option Json) :
    (order? value t == some o) = value.any (related o · literal) := by
  cases value with
  | none => cases o <;> rfl
  | some v =>
    cases literal <;> simp only [Scalar.ofJson?, Option.some.injEq, reduceCtorEq] at ht <;>
      subst ht <;> cases v
    -- Values of different types have no order, and `null` only equals itself.
    all_goals try cases o <;> rfl
    all_goals
      rw [Bool.eq_iff_iff]
      cases o <;>
        simp [order?, Scalar.ofJson?, Scalar.compare?, related, equals, precedes,
          compareDoubles?_eq_eq_iff, compareDoubles?_eq_lt_iff, compareDoubles?_eq_gt_iff,
          compare_bool_eq_lt, compare_bool_eq_gt, compare_string_eq_lt, compare_string_eq_gt]

/-! ## Reading keys and literals -/

theorem ofJson_key {value : Json} {key : Key} (h : Key.ofJson value = .ok key) :
    ∃ name, value = .string name ∧ key = Key.ofName name := by
  cases value with
  | string name =>
    obtain rfl : Key.ofName name = key := by simpa [Key.ofJson] using h
    exact ⟨name, rfl, rfl⟩
  | _ => simp [Key.ofJson] at h

theorem ofJson_scalar {value : Json} {s : Scalar} (h : Scalar.ofJson value = .ok s) :
    Scalar.ofJson? value = some s := by
  unfold Scalar.ofJson at h
  split at h
  · next t ht =>
    obtain rfl : t = s := by simpa using h
    exact ht
  · simp at h

theorem isProper_of_mapM {literals : List Json} {scalars : List Scalar}
    (h : literals.mapM Scalar.ofJson = .ok scalars) (hp : Json.areProper literals = true) :
    ∀ t ∈ scalars, t.isProper = true := by
  rw [Reading.mapM_eq_ok] at h
  induction h with
  | nil => simp
  | cons hv _ ih =>
    simp only [Json.areProper, Bool.and_eq_true] at hp
    rw [List.forall_mem_cons]
    exact ⟨Scalar.isProper_of_ofJson? (ofJson_scalar hv) hp.1, ih hp.2⟩

theorem any_of_mapM {literals : List Json} {scalars : List Scalar}
    (h : literals.mapM Scalar.ofJson = .ok scalars) (value : Option Json) :
    (scalars.any fun t => order? value t == some .eq) =
      value.any fun v => literals.any (equals v) := by
  rw [Reading.mapM_eq_ok] at h
  induction h with
  | nil => cases value <;> rfl
  | cons hv _ ih =>
    rw [List.any_cons, ih, order?_beq (ofJson_scalar hv)]
    cases value <;> rfl

/-- A set that is read from literals has the value of a key when the value equals one of them. -/
theorem holdsMember_of_mapM {literals : List Json} {scalars : List Scalar}
    (h : literals.mapM Scalar.ofJson = .ok scalars) (hp : Json.areProper literals = true)
    (name : String) (f : Feature) :
    Selector.holdsMember (Key.ofName name) (ScalarSet.ofList scalars) f =
      (valueOf? f name).any fun v => literals.any (equals v) := by
  rw [← any_of_mapM h, Selector.holdsMember, Key.scalar?, read?_ofName]
  unfold order?
  cases (valueOf? f name).bind Scalar.ofJson? with
  | none => simp
  | some s => exact ScalarSet.contains_ofList (isProper_of_mapM h hp) s

/-! ## Operators without expressions -/

/-- A comparison holds of the order of a value and a literal as its operator states. -/
theorem holds_order? {operator : String} {c : Comparison} {literal : Json} {t : Scalar}
    (hc : Comparison.ofName? operator = some c) (ht : Scalar.ofJson? literal = some t)
    (value : Option Json) :
    c.holds (order? value t) = relates value operator [literal] := by
  have heq : (order? value t == some .eq) = value.any (equals · literal) :=
    order?_beq ht .eq value
  have hlt : (order? value t == some .lt) = value.any (precedes · literal) :=
    order?_beq ht .lt value
  have hgt : (order? value t == some .gt) = value.any (precedes literal ·) :=
    order?_beq ht .gt value
  unfold Comparison.ofName? at hc
  split at hc <;> cases hc
  · exact heq
  · exact congrArg (!·) heq
  · exact hlt
  · change (order? value t == some .lt || order? value t == some .eq) = _
    rw [hlt, heq]
    cases value <;> rfl
  · exact hgt
  · change (order? value t == some .gt || order? value t == some .eq) = _
    rw [hgt, heq]
    cases value <;> rfl

variable {f : Feature} {s : Selector} {operands : List Json}

theorem selects_of_comparisonOf {operator : String} {c : Comparison}
    (hc : Comparison.ofName? operator = some c)
    (h : Selector.comparisonOf operator c operands = .ok s) :
    ∃ name literals, operands = .string name :: literals ∧
      s.selects f = relates (valueOf? f name) operator literals := by
  unfold Selector.comparisonOf at h
  split at h
  · next key literal =>
    obtain ⟨k, hk, h⟩ := Reading.bind_eq_ok.1 h
    obtain ⟨t, ht, h⟩ := Reading.bind_eq_ok.1 h
    obtain ⟨name, rfl, rfl⟩ := ofJson_key hk
    obtain rfl : .compares (Key.ofName name) c t = s := by simpa [pure, Except.pure] using h
    refine ⟨name, [literal], rfl, ?_⟩
    rw [Selector.selects, Key.scalar?, read?_ofName]
    exact holds_order? hc (ofJson_scalar ht) _
  · simp at h

theorem holdsMember_of_membershipOf {key : Key} {literals : ScalarSet}
    (h : Selector.membershipOf operands = .ok (key, literals))
    (hp : Json.areProper operands = true) :
    ∃ name rest, operands = .string name :: rest ∧
      Selector.holdsMember key literals f = isListed (valueOf? f name) rest := by
  unfold Selector.membershipOf at h
  split at h
  · simp at h
  · next key operands =>
    obtain ⟨k, hk, h⟩ := Reading.bind_eq_ok.1 h
    obtain ⟨scalars, hs, h⟩ := Reading.bind_eq_ok.1 h
    obtain ⟨name, rfl, rfl⟩ := ofJson_key hk
    obtain ⟨rfl, rfl⟩ : Key.ofName name = _ ∧ ScalarSet.ofList scalars = _ := by
      simpa [pure, Except.pure] using h
    refine ⟨name, operands, rfl, ?_⟩
    change (listed operands).mapM Scalar.ofJson = .ok scalars at hs
    have hp' : Json.areProper (listed operands) = true := by
      simp only [Json.areProper, Bool.and_eq_true] at hp
      unfold listed
      split
      · next items => simpa [Json.areProper, Json.isProper] using hp.2
      · exact hp.2
    exact holdsMember_of_mapM hs hp' name f

theorem isPresent_of_presenceOf {key : Key} (h : Selector.presenceOf operands = .ok key) :
    ∃ name, operands = [.string name] ∧ key.isPresent f = (valueOf? f name).isSome := by
  unfold Selector.presenceOf at h
  split at h
  · obtain ⟨name, rfl, rfl⟩ := ofJson_key h
    refine ⟨name, rfl, ?_⟩
    rw [Key.isPresent, read?_ofName]
  · simp at h

theorem selects_of_leafOf {operator : String} (h : Selector.leafOf operator operands = .ok s)
    (hp : Json.areProper operands = true) :
    ∃ name rest, operands = .string name :: rest ∧
      s.selects f = relates (valueOf? f name) operator rest := by
  unfold Selector.leafOf at h
  split at h
  · next c hc => exact selects_of_comparisonOf hc h
  · split at h
    · obtain ⟨⟨key, literals⟩, hm, rfl⟩ := Reading.map_eq_ok.1 h
      obtain ⟨name, rest, rfl, hf⟩ := holdsMember_of_membershipOf (f := f) hm hp
      exact ⟨name, rest, rfl, hf⟩
    · obtain ⟨⟨key, literals⟩, hm, rfl⟩ := Reading.map_eq_ok.1 h
      obtain ⟨name, rest, rfl, hf⟩ := holdsMember_of_membershipOf (f := f) hm hp
      exact ⟨name, rest, rfl, congrArg (!·) hf⟩
    · obtain ⟨key, hk, rfl⟩ := Reading.map_eq_ok.1 h
      obtain ⟨name, rfl, hf⟩ := isPresent_of_presenceOf (f := f) hk
      exact ⟨name, [], rfl, hf⟩
    · obtain ⟨key, hk, rfl⟩ := Reading.map_eq_ok.1 h
      obtain ⟨name, rfl, hf⟩ := isPresent_of_presenceOf (f := f) hk
      refine ⟨name, [], rfl, ?_⟩
      change (!key.isPresent f) = (valueOf? f name).isNone
      rw [hf, Option.not_isSome]
    · simp at h

/-! ## Expressions -/

theorem holds_leaf {f : Feature} {operator name : String} {literals : List Json}
    (h : operator ≠ "all" ∧ operator ≠ "any" ∧ operator ≠ "none") :
    holds f (.array (.string operator :: .string name :: literals)) =
      relates (valueOf? f name) operator literals := by
  rw [holds]
  · exact h.1
  · exact h.2.1
  · exact h.2.2

theorem ofItems_cons {e : Json} {es : List Json} {parts : List Selector}
    (h : Selector.ofItems (e :: es) = .ok parts) :
    ∃ part rest, Selector.ofJson e = .ok part ∧ Selector.ofItems es = .ok rest ∧
      part :: rest = parts := by
  unfold Selector.ofItems at h
  split at h
  · simp at h
  · next part he =>
    obtain ⟨rest, hes, hparts⟩ := Reading.map_eq_ok.1 h
    exact ⟨part, rest, he, hes, hparts⟩

mutual

theorem selects_of_ofJson {e : Json} {s : Selector} {f : Feature} (h : Selector.ofJson e = .ok s)
    (hp : e.isProper = true) : s.selects f = holds f e := by
  match e with
  | .bool b =>
    obtain rfl : .constant b = s := by simpa [Selector.ofJson] using h
    rfl
  | .array (.string operator :: operands) =>
    unfold Selector.ofJson at h
    simp only [Json.isProper, Json.areProper, Bool.and_eq_true] at hp
    split at h
    · obtain ⟨parts, hparts, rfl⟩ := Reading.map_eq_ok.1 h
      exact selectsAll_of_ofItems hparts hp.2
    · obtain ⟨parts, hparts, rfl⟩ := Reading.map_eq_ok.1 h
      exact selectsAny_of_ofItems hparts hp.2
    · obtain ⟨parts, hparts, rfl⟩ := Reading.map_eq_ok.1 h
      exact congrArg (!·) (selectsAny_of_ofItems hparts hp.2)
    · next hall hany hnone =>
      -- Every other operator is followed by a key and literals, so no expression is inside.
      obtain ⟨name, rest, rfl, hs⟩ := selects_of_leafOf (f := f) h hp.2
      rw [holds_leaf ⟨hall, hany, hnone⟩]
      exact hs
  | .array [] | .array (.null :: _) | .array (.bool _ :: _) | .array (.number _ :: _)
  | .array (.array _ :: _) | .array (.object _ :: _) => simp [Selector.ofJson] at h
  | .null | .number _ | .string _ | .object _ => simp [Selector.ofJson] at h

theorem selectsAll_of_ofItems {es : List Json} {parts : List Selector} {f : Feature}
    (h : Selector.ofItems es = .ok parts) (hp : Json.areProper es = true) :
    Selector.selectsAll f parts = holdsAll f es := by
  match es with
  | [] =>
    obtain rfl : [] = parts := by simpa [Selector.ofItems] using h
    rfl
  | e :: es =>
    obtain ⟨part, rest, he, hes, rfl⟩ := ofItems_cons h
    simp only [Json.areProper, Bool.and_eq_true] at hp
    rw [Selector.selectsAll, holdsAll, selects_of_ofJson he hp.1,
      selectsAll_of_ofItems hes hp.2]

theorem selectsAny_of_ofItems {es : List Json} {parts : List Selector} {f : Feature}
    (h : Selector.ofItems es = .ok parts) (hp : Json.areProper es = true) :
    Selector.selectsAny f parts = holdsAny f es := by
  match es with
  | [] =>
    obtain rfl : [] = parts := by simpa [Selector.ofItems] using h
    rfl
  | e :: es =>
    obtain ⟨part, rest, he, hes, rfl⟩ := ofItems_cons h
    simp only [Json.areProper, Bool.and_eq_true] at hp
    rw [Selector.selectsAny, holdsAny, selects_of_ofJson he hp.1,
      selectsAny_of_ofItems hes hp.2]

end

/-- The selector that is read from a filter selects the features of which the filter holds. -/
theorem selects_of_ofFilter {filter : Option Json} {s : Selector}
    (h : Selector.ofFilter filter = .ok s) (hp : ∀ e ∈ filter, e.isProper = true) (f : Feature) :
    s.selects f = filterHolds f filter := by
  unfold Selector.ofFilter at h
  split at h
  · obtain rfl : Selector.always = s := by simpa using h
    rfl
  · obtain rfl : Selector.always = s := by simpa using h
    rfl
  · next e hne =>
    rw [Reading.mapError_eq_ok] at h
    have hs : s.selects f = holds f e := selects_of_ofJson h (hp e rfl)
    unfold filterHolds
    split
    · contradiction
    · next h' => exact absurd (Option.some.inj h') hne
    · next h' => rw [← Option.some.inj h']; exact hs

/-- A filter with operators inside operators, and a feature of which it holds. -/
theorem selects_of_ofFilter_nested :
    let filter : Json := .array [.string "all",
      .array [.string "none", .array [.string "==", .string "$type", .string "Polygon"]],
      .array [.string ">=", .string "rank", .number (.double 2.5)],
      .array [.string "in", .string "class", .array [.string "park", .null]]]
    let feature : Feature := { Feature.blank .point with
      properties := [("class", .string "park"), ("rank", .number (.natural 3))] }
    ∃ s, Selector.ofFilter (some filter) = .ok s ∧
      s.selects feature = filterHolds feature (some filter) ∧
      filterHolds feature (some filter) = true := by
  refine ⟨_, rfl, selects_of_ofFilter rfl ?_ _, ?_⟩
  · rintro e ⟨⟩
    decide
  · decide

end StyledMap.Expression
