import StyledMap.Proofs.Selector.Meaning

/-! # The grammar of filters

Which values are filters can be said without reading one: an expression is a truth value, or an
array of an operator and operands that fit it.

* `IsTest`: the operands that fit the operators without expressions inside.
* `IsExpression` and `IsFilter`: expressions, nested to any depth, and filters. `null` is a filter
  and no expression.
* `ofJson_isOk_iff`: exactly the expressions are read, by induction on the value one way and on the
  derivation the other way. The operands of a combination are read when each of them is.
* `ofFilter_cases`: filters are read, and every other value is refused as a malformed filter.
-/

set_option autoImplicit false

namespace StyledMap.Expression

/-! ## Grammar -/

/-- Whether a value is neither an array nor an object. -/
def isScalar : Json → Bool
  | .null | .bool _ | .number _ | .string _ => true
  | .array _ | .object _ => false

def comparisonNames : List String := ["==", "!=", "<", "<=", ">", ">="]

def membershipNames : List String := ["in", "!in"]

def presenceNames : List String := ["has", "!has"]

def combinationNames : List String := ["all", "any", "none"]

/-- The operands of an operator that states something about the value of a key. -/
inductive IsTest : String → List Json → Prop
  | comparison {operator : String} (ho : operator ∈ comparisonNames) (key : String)
      {literal : Json} (hl : isScalar literal = true) : IsTest operator [.string key, literal]
  | membership {operator : String} (ho : operator ∈ membershipNames) (key : String)
      {literals : List Json} (hl : ∀ v ∈ literals, isScalar v = true) :
      IsTest operator (.string key :: literals)
  | membershipArray {operator : String} (ho : operator ∈ membershipNames) (key : String)
      {literals : List Json} (hl : ∀ v ∈ literals, isScalar v = true) :
      IsTest operator [.string key, .array literals]
  | presence {operator : String} (ho : operator ∈ presenceNames) (key : String) :
      IsTest operator [.string key]

inductive IsExpression : Json → Prop
  | constant (b : Bool) : IsExpression (.bool b)
  | test {operator : String} {operands : List Json} (h : IsTest operator operands) :
      IsExpression (.array (.string operator :: operands))
  | combination {operator : String} (ho : operator ∈ combinationNames) {operands : List Json}
      (h : ∀ e ∈ operands, IsExpression e) : IsExpression (.array (.string operator :: operands))

/-- A filter may be absent, and `null` stands for an absent one. -/
def IsFilter : Option Json → Prop
  | none | some .null => True
  | some e => IsExpression e

/-! ## Keys and literals -/

theorem ofJson_key_isOk {value : Json} :
    (∃ key, Key.ofJson value = .ok key) ↔ ∃ name, value = .string name := by
  constructor
  · rintro ⟨key, h⟩
    obtain ⟨name, rfl, -⟩ := ofJson_key h
    exact ⟨name, rfl⟩
  · rintro ⟨name, rfl⟩
    exact ⟨Key.ofName name, rfl⟩

theorem ofJson_scalar_isOk {value : Json} :
    (∃ s, Scalar.ofJson value = .ok s) ↔ isScalar value = true := by
  cases value <;> simp [Scalar.ofJson, Scalar.ofJson?, isScalar]

theorem mapM_scalars_isOk {literals : List Json} :
    (∃ scalars, literals.mapM Scalar.ofJson = .ok scalars) ↔
      ∀ v ∈ literals, isScalar v = true := by
  rw [Reading.mapM_isOk]
  exact forall₂_congr fun v _ => ofJson_scalar_isOk

/-! ## Operators without expressions -/

variable {operator : String} {operands : List Json}

theorem comparisonOf_isOk {c : Comparison} :
    (∃ s, Selector.comparisonOf operator c operands = .ok s) ↔
      ∃ key literal, operands = [.string key, literal] ∧ isScalar literal = true := by
  constructor
  · rintro ⟨s, h⟩
    unfold Selector.comparisonOf at h
    split at h
    · obtain ⟨k, hk, h⟩ := Reading.bind_eq_ok.1 h
      obtain ⟨t, ht, -⟩ := Reading.bind_eq_ok.1 h
      obtain ⟨key, rfl⟩ := ofJson_key_isOk.1 ⟨k, hk⟩
      exact ⟨key, _, rfl, ofJson_scalar_isOk.1 ⟨t, ht⟩⟩
    · simp at h
  · rintro ⟨key, literal, rfl, hl⟩
    obtain ⟨t, ht⟩ := ofJson_scalar_isOk.2 hl
    exact ⟨_, Reading.bind_eq_ok.2 ⟨_, rfl, Reading.bind_eq_ok.2 ⟨t, ht, rfl⟩⟩⟩

theorem membershipOf_isOk :
    (∃ m, Selector.membershipOf operands = .ok m) ↔
      ∃ key literals, operands = .string key :: literals ∧
        ∀ v ∈ listed literals, isScalar v = true := by
  constructor
  · rintro ⟨m, h⟩
    unfold Selector.membershipOf at h
    split at h
    · simp at h
    · obtain ⟨k, hk, h⟩ := Reading.bind_eq_ok.1 h
      obtain ⟨scalars, hs, -⟩ := Reading.bind_eq_ok.1 h
      obtain ⟨key, rfl⟩ := ofJson_key_isOk.1 ⟨k, hk⟩
      exact ⟨key, _, rfl, mapM_scalars_isOk.1 ⟨scalars, hs⟩⟩
  · rintro ⟨key, literals, rfl, hl⟩
    obtain ⟨scalars, hs⟩ := mapM_scalars_isOk.2 hl
    exact ⟨_, Reading.bind_eq_ok.2 ⟨_, rfl, Reading.bind_eq_ok.2 ⟨scalars, hs, rfl⟩⟩⟩

theorem presenceOf_isOk :
    (∃ key, Selector.presenceOf operands = .ok key) ↔ ∃ name, operands = [.string name] := by
  constructor
  · rintro ⟨key, h⟩
    unfold Selector.presenceOf at h
    split at h
    · obtain ⟨name, rfl⟩ := ofJson_key_isOk.1 ⟨key, h⟩
      exact ⟨name, rfl⟩
    · simp at h
  · rintro ⟨name, rfl⟩
    exact ⟨Key.ofName name, rfl⟩

/-- Literals are listed either as operands or in one array. -/
theorem isTest_of_listed {key : String} {literals : List Json}
    (ho : operator ∈ membershipNames) (hl : ∀ v ∈ listed literals, isScalar v = true) :
    IsTest operator (.string key :: literals) := by
  unfold listed at hl
  split at hl
  · exact .membershipArray ho key hl
  · exact .membership ho key hl

theorem listed_of_isScalar {literals : List Json} (h : ∀ v ∈ literals, isScalar v = true) :
    listed literals = literals := by
  unfold listed
  split
  · simp [isScalar] at h
  · rfl

theorem mem_comparisonNames {c : Comparison} (h : Comparison.ofName? operator = some c) :
    operator ∈ comparisonNames := by
  unfold Comparison.ofName? at h
  split at h
  case h_7 => simp at h
  all_goals decide

theorem exists_ofName? (ho : operator ∈ comparisonNames) :
    ∃ c, Comparison.ofName? operator = some c := by
  simp only [comparisonNames, List.mem_cons, List.not_mem_nil, or_false] at ho
  obtain rfl | rfl | rfl | rfl | rfl | rfl := ho <;> exact ⟨_, rfl⟩

theorem isTest_of_leafOf {s : Selector} (h : Selector.leafOf operator operands = .ok s) :
    IsTest operator operands := by
  unfold Selector.leafOf at h
  split at h
  · next c hc =>
    obtain ⟨key, literal, rfl, hl⟩ := comparisonOf_isOk.1 ⟨s, h⟩
    exact .comparison (mem_comparisonNames hc) key hl
  · split at h
    · obtain ⟨m, hm, -⟩ := Reading.map_eq_ok.1 h
      obtain ⟨key, literals, rfl, hl⟩ := membershipOf_isOk.1 ⟨m, hm⟩
      exact isTest_of_listed (by decide) hl
    · obtain ⟨m, hm, -⟩ := Reading.map_eq_ok.1 h
      obtain ⟨key, literals, rfl, hl⟩ := membershipOf_isOk.1 ⟨m, hm⟩
      exact isTest_of_listed (by decide) hl
    · obtain ⟨key, hk, -⟩ := Reading.map_eq_ok.1 h
      obtain ⟨name, rfl⟩ := presenceOf_isOk.1 ⟨key, hk⟩
      exact .presence (by decide) name
    · obtain ⟨key, hk, -⟩ := Reading.map_eq_ok.1 h
      obtain ⟨name, rfl⟩ := presenceOf_isOk.1 ⟨key, hk⟩
      exact .presence (by decide) name
    · simp at h

theorem leafOf_comparison (ho : operator ∈ comparisonNames)
    (h : ∀ c, ∃ s, Selector.comparisonOf operator c operands = .ok s) :
    ∃ s, Selector.leafOf operator operands = .ok s := by
  obtain ⟨c, hc⟩ := exists_ofName? ho
  simp only [Selector.leafOf, hc]
  exact h c

theorem leafOf_membership (ho : operator ∈ membershipNames)
    (h : ∃ m, Selector.membershipOf operands = .ok m) :
    ∃ s, Selector.leafOf operator operands = .ok s := by
  obtain ⟨m, hm⟩ := h
  simp only [membershipNames, List.mem_cons, List.not_mem_nil, or_false] at ho
  obtain rfl | rfl := ho
  · exact ⟨_, Reading.map_eq_ok.2 ⟨m, hm, rfl⟩⟩
  · exact ⟨_, Reading.map_eq_ok.2 ⟨m, hm, rfl⟩⟩

theorem leafOf_presence (ho : operator ∈ presenceNames)
    (h : ∃ key, Selector.presenceOf operands = .ok key) :
    ∃ s, Selector.leafOf operator operands = .ok s := by
  obtain ⟨key, hk⟩ := h
  simp only [presenceNames, List.mem_cons, List.not_mem_nil, or_false] at ho
  obtain rfl | rfl := ho
  · exact ⟨_, Reading.map_eq_ok.2 ⟨key, hk, rfl⟩⟩
  · exact ⟨_, Reading.map_eq_ok.2 ⟨key, hk, rfl⟩⟩

theorem exists_leafOf (h : IsTest operator operands) :
    ∃ s, Selector.leafOf operator operands = .ok s := by
  cases h with
  | comparison ho key hl =>
    exact leafOf_comparison ho fun c => comparisonOf_isOk.2 ⟨key, _, rfl, hl⟩
  | membership ho key hl =>
    refine leafOf_membership ho (membershipOf_isOk.2 ⟨key, _, rfl, ?_⟩)
    rwa [listed_of_isScalar hl]
  | membershipArray ho key hl =>
    exact leafOf_membership ho (membershipOf_isOk.2 ⟨key, _, rfl, hl⟩)
  | presence ho key => exact leafOf_presence ho (presenceOf_isOk.2 ⟨key, rfl⟩)

/-! ## Expressions -/

/-- No operator takes both literals and expressions. -/
theorem not_mem_combinationNames (h : IsTest operator operands) : operator ∉ combinationNames := by
  have hc : ∀ o ∈ comparisonNames, o ∉ combinationNames := by decide
  have hm : ∀ o ∈ membershipNames, o ∉ combinationNames := by decide
  have hp : ∀ o ∈ presenceNames, o ∉ combinationNames := by decide
  cases h with
  | comparison ho _ _ => exact hc _ ho
  | membership ho _ _ => exact hm _ ho
  | membershipArray ho _ _ => exact hm _ ho
  | presence ho _ => exact hp _ ho

theorem ofJson_test (h : IsTest operator operands) :
    Selector.ofJson (.array (.string operator :: operands)) =
      Selector.leafOf operator operands := by
  have hne := not_mem_combinationNames h
  simp only [combinationNames, List.mem_cons, List.not_mem_nil, or_false, not_or] at hne
  rw [Selector.ofJson]
  · exact hne.1
  · exact hne.2.1
  · exact hne.2.2

theorem ofJson_combination (ho : operator ∈ combinationNames)
    (h : ∃ parts, Selector.ofItems operands = .ok parts) :
    ∃ s, Selector.ofJson (.array (.string operator :: operands)) = .ok s := by
  obtain ⟨parts, hparts⟩ := h
  simp only [combinationNames, List.mem_cons, List.not_mem_nil, or_false] at ho
  obtain rfl | rfl | rfl := ho
  all_goals exact ⟨_, Reading.map_eq_ok.2 ⟨parts, hparts, rfl⟩⟩

theorem exists_ofItems {es : List Json} (h : ∀ e ∈ es, ∃ s, Selector.ofJson e = .ok s) :
    ∃ parts, Selector.ofItems es = .ok parts := by
  induction es with
  | nil => exact ⟨[], rfl⟩
  | cons e es ih =>
    obtain ⟨⟨part, he⟩, hes⟩ := List.forall_mem_cons.1 h
    obtain ⟨parts, hparts⟩ := ih hes
    refine ⟨part :: parts, ?_⟩
    rw [Selector.ofItems, he, hparts]
    rfl

theorem exists_ofJson {e : Json} (h : IsExpression e) : ∃ s, Selector.ofJson e = .ok s := by
  induction h with
  | constant b => exact ⟨.constant b, rfl⟩
  | test h =>
    rw [ofJson_test h]
    exact exists_leafOf h
  | combination ho _ ih => exact ofJson_combination ho (exists_ofItems ih)

mutual

theorem isExpression_of_ofJson {e : Json} {s : Selector} (h : Selector.ofJson e = .ok s) :
    IsExpression e := by
  match e with
  | .bool b => exact .constant b
  | .array (.string operator :: operands) =>
    unfold Selector.ofJson at h
    split at h
    · obtain ⟨parts, hparts, -⟩ := Reading.map_eq_ok.1 h
      exact .combination (by decide) (isExpression_of_ofItems hparts)
    · obtain ⟨parts, hparts, -⟩ := Reading.map_eq_ok.1 h
      exact .combination (by decide) (isExpression_of_ofItems hparts)
    · obtain ⟨parts, hparts, -⟩ := Reading.map_eq_ok.1 h
      exact .combination (by decide) (isExpression_of_ofItems hparts)
    · exact .test (isTest_of_leafOf h)
  | .array [] | .array (.null :: _) | .array (.bool _ :: _) | .array (.number _ :: _)
  | .array (.array _ :: _) | .array (.object _ :: _) => simp [Selector.ofJson] at h
  | .null | .number _ | .string _ | .object _ => simp [Selector.ofJson] at h

theorem isExpression_of_ofItems {es : List Json} {parts : List Selector}
    (h : Selector.ofItems es = .ok parts) : ∀ e ∈ es, IsExpression e := by
  match es with
  | [] => simp
  | e :: es =>
    obtain ⟨part, rest, he, hes, -⟩ := ofItems_cons h
    exact List.forall_mem_cons.2 ⟨isExpression_of_ofJson he, isExpression_of_ofItems hes⟩

end

theorem ofJson_isOk_iff {e : Json} : (∃ s, Selector.ofJson e = .ok s) ↔ IsExpression e :=
  ⟨fun ⟨_, h⟩ => isExpression_of_ofJson h, exists_ofJson⟩

instance : DecidablePred IsExpression := fun e =>
  decidable_of_iff ((Selector.ofJson e).isOk = true) <| by
    rw [← ofJson_isOk_iff]
    cases Selector.ofJson e <;> simp [Except.isOk, Except.toBool]

theorem ofFilter_some {e : Json} (h : e ≠ .null) :
    Selector.ofFilter (some e) = (Selector.ofJson e).mapError .malformedFilter := by
  rw [Selector.ofFilter]
  exact h

/-- A filter is read, and every other value is refused as a malformed filter, at whatever depth the
part stands that does not fit. -/
theorem ofFilter_cases (filter : Option Json) :
    (IsFilter filter ∧ ∃ s, Selector.ofFilter filter = .ok s) ∨
      (¬ IsFilter filter ∧ ∃ fault, Selector.ofFilter filter = .error (.malformedFilter fault)) := by
  unfold IsFilter
  split
  · exact .inl ⟨trivial, _, rfl⟩
  · exact .inl ⟨trivial, _, rfl⟩
  · next e hnull =>
    rw [ofFilter_some hnull, ← ofJson_isOk_iff]
    cases Selector.ofJson e with
    | ok s => exact .inl ⟨⟨s, rfl⟩, s, rfl⟩
    | error fault => exact .inr ⟨by simp, fault, rfl⟩

/-- Inside an expression `null` stands for nothing. -/
example : ¬ IsExpression (.array [.string "none", .array [.string "all", .null]]) := by decide

end StyledMap.Expression
