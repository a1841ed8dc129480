import StyledMap.Scale

/-! # Places of inputs

An input falls among positions at the first one above it. An input that is itself one of several
increasing positions falls at that one: it is the lower of the two neighbours, and the only one at
the last position. An input between two of them falls where the lower one does.

* `isWithin_of_locate?`: the indices of a place are indices of positions.
* `locate?_eq_none`: only where there are no positions an input has no place.
* `locate?_between` and `locate?_at`: an input between two positions is not below the lower one and
  below the upper one, and an input at an end is below the first position or below none.
* `locate?_congr`: inputs that are below the same positions fall at the same place.
* `locate?_of_index` and `locate?_of_not_lt`: the inputs that fall at an index and the one after it.
* `locate?_stop` and `locate?_of_getElem?`: where a position of an increasing list falls.
-/

set_option autoImplicit false

namespace StyledMap

variable {α β : Type} [Arith α]

/-! ## Places within a list -/

/-- Whether the indices of a place are below the length of a list. -/
def Place.IsWithin (length : Nat) : Place → Prop
  | .at k => k < length
  | .between lower upper => lower < length ∧ upper < length

section

variable {x : α} {positions : List α}

theorem locate?_eq_none : locate? x positions = none ↔ positions = [] := by
  unfold locate?
  split
  · next h =>
    have hlen := (List.findIdx?_eq_some_iff_getElem.1 h).1
    exact iff_of_false (by simp) (List.ne_nil_of_length_pos hlen)
  · next h =>
    have hlen := (List.findIdx?_eq_some_iff_getElem.1 h).1
    exact iff_of_false (by simp) (List.ne_nil_of_length_pos (Nat.zero_lt_of_lt hlen))
  · simp [List.isEmpty_iff]

theorem isWithin_of_locate? {place : Place} (h : locate? x positions = some place) :
    place.IsWithin positions.length := by
  unfold locate? at h
  split at h
  · next hidx =>
    obtain rfl := Option.some.inj h
    exact (List.findIdx?_eq_some_iff_getElem.1 hidx).1
  · next i hidx =>
    obtain rfl := Option.some.inj h
    have hlen := (List.findIdx?_eq_some_iff_getElem.1 hidx).1
    exact ⟨Nat.lt_of_succ_lt hlen, hlen⟩
  · split at h
    · simp at h
    · next hne =>
      obtain rfl := Option.some.inj h
      have hpos : 0 < positions.length :=
        List.length_pos_iff.2 (by simpa [List.isEmpty_iff] using hne)
      exact Nat.sub_one_lt_of_lt hpos

/-- Inputs that are below the same positions fall at the same place. -/
theorem locate?_congr {y : α} (h : ∀ p ∈ positions, x < p ↔ y < p) :
    locate? x positions = locate? y positions := by
  have hidx : positions.findIdx? (fun p => decide (x < p)) =
      positions.findIdx? fun p => decide (y < p) := by
    induction positions with
    | nil => rfl
    | cons p positions ih =>
      obtain ⟨hp, hps⟩ := List.forall_mem_cons.1 h
      rw [List.findIdx?_cons, List.findIdx?_cons, decide_eq_decide.2 hp, ih hps]
  rw [locate?, locate?, hidx]

theorem locate?_between {lower upper : Nat} (h : locate? x positions = some (.between lower upper)) :
    upper = lower + 1 ∧ ∃ a b, positions[lower]? = some a ∧ positions[upper]? = some b ∧
      ¬ x < a ∧ x < b := by
  unfold locate? at h
  split at h
  · simp at h
  · next i hidx =>
    obtain ⟨rfl, rfl⟩ := Place.between.inj (Option.some.inj h)
    obtain ⟨hlen, hbelow, hfirst⟩ := List.findIdx?_eq_some_iff_getElem.1 hidx
    have hlower := hfirst i (Nat.lt_succ_self i)
    exact ⟨rfl, _, _, List.getElem?_eq_getElem (Nat.lt_of_succ_lt hlen),
      List.getElem?_eq_getElem hlen, by simpa using hlower, of_decide_eq_true hbelow⟩
  · split at h <;> simp at h

theorem locate?_at {k : Nat} (h : locate? x positions = some (.at k)) :
    (k = 0 ∧ ∃ first, positions[0]? = some first ∧ x < first) ∨
      (k + 1 = positions.length ∧ ∀ p ∈ positions, ¬ x < p) := by
  unfold locate? at h
  split at h
  · next hidx =>
    obtain rfl := Place.at.inj (Option.some.inj h)
    obtain ⟨hlen, hbelow, -⟩ := List.findIdx?_eq_some_iff_getElem.1 hidx
    exact .inl ⟨rfl, _, List.getElem?_eq_getElem hlen, of_decide_eq_true hbelow⟩
  · simp at h
  · next hnone =>
    split at h
    · simp at h
    · next hne =>
      obtain rfl := Place.at.inj (Option.some.inj h)
      have hpos : 0 < positions.length :=
        List.length_pos_iff.2 (by simpa [List.isEmpty_iff] using hne)
      refine .inr ⟨Nat.sub_one_add_one (Nat.ne_of_gt hpos), fun p hp => ?_⟩
      simpa using List.findIdx?_eq_none_iff.1 hnone p hp

theorem locate?_first {first : α} (h : positions[0]? = some first) (hx : x < first) :
    locate? x positions = some (.at 0) := by
  obtain ⟨hlen, rfl⟩ := List.getElem?_eq_some_iff.1 h
  have hidx : positions.findIdx? (fun p => decide (x < p)) = some 0 :=
    List.findIdx?_eq_some_iff_getElem.2 ⟨hlen, decide_eq_true hx, by simp⟩
  rw [locate?, hidx]

end

/-! ## Inputs at an index -/

/-- Whether stops are listed in increasing order of their inputs. -/
def Increasing (stops : List (α × β)) : Prop :=
  stops.Pairwise fun s t => s.1 < t.1

/-- The place of an index and the one after it, if there is one. -/
def placeOf (k length : Nat) : Place :=
  if k + 1 < length then .between k (k + 1) else .at k

theorem not_lt_of_le [asymm : Std.Asymm (fun x y : α => x < y)] {positions : List α}
    (h : positions.Pairwise (· < ·)) {i j : Nat} (hi : i < positions.length) (hj : j ≤ i) :
    ¬ positions[i] < positions[j] := by
  intro hlt
  rcases Nat.lt_or_eq_of_le hj with hji | rfl
  · exact asymm.asymm _ _ hlt (List.pairwise_iff_getElem.1 h j i _ hi hji)
  · exact asymm.asymm _ _ hlt hlt

/-- An input falls at the index of which it is below the next position and below none up to it. -/
theorem locate?_of_index {x : α} {positions : List α} {i : Nat} (hi : i < positions.length)
    (hle : ∀ (j : Nat) (hj : j < positions.length), j ≤ i → ¬ x < positions[j])
    (hnext : ∀ p, positions[i + 1]? = some p → x < p) :
    locate? x positions = some (placeOf i positions.length) := by
  unfold locate? placeOf
  by_cases hlast : i + 1 < positions.length
  · have hidx : positions.findIdx? (fun p => decide (x < p)) = some (i + 1) := by
      refine List.findIdx?_eq_some_iff_getElem.2 ⟨hlast, ?_, fun j hj => ?_⟩
      · exact decide_eq_true (hnext _ (List.getElem?_eq_getElem hlast))
      · simpa using hle j _ (Nat.le_of_lt_succ hj)
    rw [hidx, if_pos hlast]
  · have hidx : positions.findIdx? (fun p => decide (x < p)) = none := by
      refine List.findIdx?_eq_none_iff.2 fun p hp => ?_
      obtain ⟨j, hj, rfl⟩ := List.getElem_of_mem hp
      simpa using hle j hj (show j ≤ i by omega)
    have hne : positions.isEmpty = false := by
      cases positions with
      | nil => simp at hi
      | cons _ _ => rfl
    have hi' : positions.length - 1 = i := by omega
    rw [hidx, if_neg hlast, hne, hi']
    simp

/-- Among increasing positions an input falls at one that it is not below, if it is below the next
one. -/
theorem locate?_of_not_lt {x p : α} {positions : List α} {k : Nat}
    (h : positions.Pairwise (· < ·)) (hk : positions[k]? = some p) (hx : ¬ x < p)
    (hlow : ∀ q, q < p → ¬ x < q) (hnext : ∀ next, positions[k + 1]? = some next → x < next) :
    locate? x positions = some (placeOf k positions.length) := by
  obtain ⟨hlt, rfl⟩ := List.getElem?_eq_some_iff.1 hk
  refine locate?_of_index hlt (fun j hj hjk => ?_) hnext
  rcases Nat.lt_or_eq_of_le hjk with hjk | rfl
  · exact hlow _ (List.pairwise_iff_getElem.1 h j k hj hlt hjk)
  · exact hx

theorem locate?_stop [Std.Asymm (fun x y : α => x < y)] {positions : List α}
    (h : positions.Pairwise (· < ·)) {i : Nat} (hi : i < positions.length) :
    locate? positions[i] positions = some (placeOf i positions.length) := by
  refine locate?_of_index hi (fun j hj hle => not_lt_of_le h hi hle) fun p hp => ?_
  obtain ⟨hlast, rfl⟩ := List.getElem?_eq_some_iff.1 hp
  exact List.pairwise_iff_getElem.1 h i (i + 1) hi hlast (Nat.lt_succ_self i)

theorem locate?_of_getElem? [Std.Asymm (fun x y : α => x < y)] {positions : List α}
    (h : positions.Pairwise (· < ·)) {i : Nat} {z : α} (hi : positions[i]? = some z) :
    locate? z positions = some (placeOf i positions.length) := by
  obtain ⟨hlt, rfl⟩ := List.getElem?_eq_some_iff.1 hi
  exact locate?_stop h hlt

end StyledMap
