import StyledMap.Proofs.Selector.Meaning

/-! # Membership and equality

A membership test reads its literals into a set once and asks the set for every feature; an equality
test compares with its one literal. The two agree.

* `listed_of_isLiteral`: scalars that stand as operands are listed as they are.
* `selects?_in`, `selects?_notIn` and `selects?_equal`: the tests are read, and what they answer.
* `selects?_in_iff_selects?_equal`: a membership test selects what some equality test with one of
  its scalars selects.
-/

set_option autoImplicit false

namespace StyledMap.Expression

/-- The expression of an operator, a key and literals. -/
def test (operator key : String) (literals : List Json) : Json :=
  .array (.string operator :: .string key :: literals)

/-- Whether a value is a scalar and, if it is a double, a number. -/
def isLiteral (v : Json) : Bool :=
  (Scalar.ofJson? v).isSome && v.isProper

variable {literals operands : List Json}

theorem areProper_of_isLiteral (h : ∀ v ∈ literals, isLiteral v = true) :
    Json.areProper literals = true := by
  rw [Json.areProper_iff]
  intro v hv
  have hl := h v hv
  simp only [isLiteral, Bool.and_eq_true] at hl
  exact hl.2

theorem mapM_of_isLiteral (h : ∀ v ∈ literals, isLiteral v = true) :
    ∃ scalars, literals.mapM Scalar.ofJson = .ok scalars := by
  induction literals with
  | nil => exact ⟨[], rfl⟩
  | cons v vs ih =>
    obtain ⟨hv, hvs⟩ := List.forall_mem_cons.1 h
    obtain ⟨scalars, hs⟩ := ih hvs
    simp only [isLiteral, Bool.and_eq_true, Option.isSome_iff_exists] at hv
    obtain ⟨⟨s, hv⟩, -⟩ := hv
    refine ⟨s :: scalars, Reading.mapM_eq_ok.2 (.cons ?_ (Reading.mapM_eq_ok.1 hs))⟩
    rw [Scalar.ofJson, hv]

/-- An array is no scalar, so scalars in place of operands are listed as they are. -/
theorem listed_of_isLiteral (h : ∀ v ∈ literals, isLiteral v = true) :
    listed literals = literals := by
  unfold listed
  split
  · simp [isLiteral, Scalar.ofJson?] at h
  · rfl

/-! ## What tests answer -/

/-- Whether the filter of an expression selects a feature, if the expression is read. -/
def selects? (e : Json) (f : Feature) : Option Bool :=
  (Selector.ofFilter (some e)).toOption.map (·.selects f)

theorem membershipOf_of_isLiteral (key : String) (h : ∀ v ∈ listed operands, isLiteral v = true) :
    ∃ literals, Selector.membershipOf (.string key :: operands) = .ok (Key.ofName key, literals) ∧
      ∀ f, Selector.holdsMember (Key.ofName key) literals f =
        isListed (valueOf? f key) operands := by
  obtain ⟨scalars, hs⟩ := mapM_of_isLiteral h
  refine ⟨ScalarSet.ofList scalars, ?_, holdsMember_of_mapM hs (areProper_of_isLiteral h) key⟩
  exact Reading.bind_eq_ok.2 ⟨_, rfl, Reading.bind_eq_ok.2 ⟨_, hs, rfl⟩⟩

theorem selects?_in (key : String) (h : ∀ v ∈ listed operands, isLiteral v = true) (f : Feature) :
    selects? (test "in" key operands) f = some (isListed (valueOf? f key) operands) := by
  obtain ⟨literals, hm, hf⟩ := membershipOf_of_isLiteral key h
  have hs : Selector.ofFilter (some (test "in" key operands)) =
      .ok (.isMember (Key.ofName key) literals) := by
    change Except.mapError _ (Except.map _ (Selector.membershipOf _)) = _
    rw [hm]
    rfl
  rw [selects?, hs, ← hf]
  rfl

theorem selects?_notIn (key : String) (h : ∀ v ∈ listed operands, isLiteral v = true)
    (f : Feature) :
    selects? (test "!in" key operands) f = some (!isListed (valueOf? f key) operands) := by
  obtain ⟨literals, hm, hf⟩ := membershipOf_of_isLiteral key h
  have hs : Selector.ofFilter (some (test "!in" key operands)) =
      .ok (.isNotMember (Key.ofName key) literals) := by
    change Except.mapError _ (Except.map _ (Selector.membershipOf _)) = _
    rw [hm]
    rfl
  rw [selects?, hs, ← hf]
  rfl

theorem selects?_equal (key : String) {v : Json} (h : isLiteral v = true) (f : Feature) :
    selects? (test "==" key [v]) f = some ((valueOf? f key).any (equals · v)) := by
  simp only [isLiteral, Bool.and_eq_true, Option.isSome_iff_exists] at h
  obtain ⟨⟨t, ht⟩, -⟩ := h
  have hl : Scalar.ofJson v = .ok t := by rw [Scalar.ofJson, ht]
  have hs : Selector.ofFilter (some (test "==" key [v])) =
      .ok (.compares (Key.ofName key) .equal t) :=
    Reading.mapError_eq_ok.2 (Reading.bind_eq_ok.2 ⟨_, rfl, Reading.bind_eq_ok.2 ⟨_, hl, rfl⟩⟩)
  have ho : (order? (valueOf? f key) t == some .eq) = (valueOf? f key).any (equals · v) :=
    order?_beq ht .eq _
  rw [selects?, hs, ← ho, order?, ← read?_ofName]
  rfl

/-- A membership test of scalars answers as the equality tests with each of them together, whether
the scalars stand as operands or in an array; its negation answers the opposite. -/
theorem selects?_in_iff_selects?_equal (key : String) (h : ∀ v ∈ literals, isLiteral v = true)
    (f : Feature) :
    ∃ b, selects? (test "in" key literals) f = some b ∧
      selects? (test "in" key [.array literals]) f = some b ∧
      selects? (test "!in" key literals) f = some (!b) ∧
      selects? (test "!in" key [.array literals]) f = some (!b) ∧
      (b = true ↔ ∃ v ∈ literals, selects? (test "==" key [v]) f = some true) ∧
      ∀ v ∈ literals, (selects? (test "==" key [v]) f).isSome = true := by
  have hl : listed literals = literals := listed_of_isLiteral h
  have ho : ∀ v ∈ listed literals, isLiteral v = true := hl.symm ▸ h
  have ha : ∀ v ∈ listed [.array literals], isLiteral v = true := h
  have hi : isListed (valueOf? f key) [.array literals] = isListed (valueOf? f key) literals := by
    rw [isListed, isListed, hl, listed]
  refine ⟨isListed (valueOf? f key) literals, selects?_in key ho f, ?_, selects?_notIn key ho f,
    ?_, ?_, ?_⟩
  · rw [selects?_in key ha, hi]
  · rw [selects?_notIn key ha, hi]
  · rw [isListed, hl]
    constructor
    · intro hb
      obtain ⟨v, hv, heq⟩ : ∃ v ∈ literals, (valueOf? f key).any (equals · v) = true := by
        cases hx : valueOf? f key with
        | none => simp [hx] at hb
        | some x => simpa [hx] using hb
      exact ⟨v, hv, by rw [selects?_equal key (h v hv), heq]⟩
    · rintro ⟨v, hv, heq⟩
      rw [selects?_equal key (h v hv), Option.some.injEq] at heq
      cases hx : valueOf? f key with
      | none => simp [hx] at heq
      | some x =>
        rw [hx] at heq
        exact List.any_eq_true.2 ⟨v, hv, heq⟩
  · intro v hv
    rw [selects?_equal key (h v hv)]
    rfl

/-- Scalars of every type, some of them equal, and a feature whose value is the other zero. -/
theorem selects?_in_signed_zero :
    let literals : List Json := [.string "0", .number (.double (-0.0)), .null, .bool false,
      .number (.natural 7), .number (.double 7.0)]
    let f : Feature := { Feature.blank .point with properties := [("n", .number (.natural 0))] }
    selects? (test "in" "n" literals) f = some true ∧
      ∃ b, selects? (test "in" "n" literals) f = some b ∧
        selects? (test "in" "n" [.array literals]) f = some b ∧
        selects? (test "!in" "n" literals) f = some (!b) ∧
        selects? (test "!in" "n" [.array literals]) f = some (!b) ∧
        (b = true ↔ ∃ v ∈ literals, selects? (test "==" "n" [v]) f = some true) ∧
        ∀ v ∈ literals, (selects? (test "==" "n" [v]) f).isSome = true :=
  ⟨by decide, selects?_in_iff_selects?_equal "n" (by decide) _⟩

end StyledMap.Expression
