import StyledMap.Selector.OfJson
import StyledMap.Proofs.Json

/-! # Scalars and sets of scalars

Scalars of one type are ordered, and a set of scalars answers by that order.

* `Scalar.isProper`: a scalar that is a double is a number, as the scalars of proper values are.
* `compareDoubles?_eq_eq_iff` and its siblings: the order of doubles is their comparison.
* `ScalarSet.contains_ofList`: a set has what equals one of its literals.
-/

set_option autoImplicit false

namespace StyledMap

namespace Scalar

/-- Whether a scalar is comparable with itself: a double must be a number. -/
def isProper : Scalar → Bool
  | number x => !x.isNaN
  | _ => true

theorem isProper_of_ofJson? {v : Json} {s : Scalar} (hs : ofJson? v = some s)
    (hv : v.isProper = true) : s.isProper = true := by
  cases v with
  | number n =>
    obtain rfl : number n.toFloat = s := by simpa [ofJson?] using hs
    rw [Json.isProper] at hv
    rw [isProper, Number.isNaN_toFloat hv]
    rfl
  | null | bool _ | string _ =>
    obtain rfl : _ = s := by simpa [ofJson?] using hs
    rfl
  | array _ | object _ => simp [ofJson?] at hs

end Scalar

/-! ## Comparison of scalars -/

theorem compareDoubles?_eq_eq_iff {x y : Float} :
    compareDoubles? x y = some .eq ↔ (x == y) = true := by
  unfold compareDoubles?
  split
  · next h =>
    rw [Double.lt_iff_rank_lt] at h
    rw [Double.beq_iff_rank_eq]
    simp; intros; omega
  · split
    · simp_all
    · split <;> simp_all

theorem compareDoubles?_eq_lt_iff {x y : Float} : compareDoubles? x y = some .lt ↔ x < y := by
  unfold compareDoubles?
  split
  · simp_all
  · split
    · simp_all
    · split <;> simp_all

theorem compareDoubles?_eq_gt_iff {x y : Float} : compareDoubles? x y = some .gt ↔ y < x := by
  unfold compareDoubles?
  split
  · next h => simp [Double.lt_asymm h]
  · split
    · next h =>
      rw [Double.beq_iff_rank_eq] at h
      rw [Double.lt_iff_rank_lt]
      simp; intros; omega
    · split <;> simp_all

namespace ScalarSet

theorem contains_empty (s : Scalar) : empty.contains s = false := by
  cases s with
  | bool b => cases b <;> rfl
  | _ => rfl

theorem contains_insert {t : Scalar} (ht : t.isProper = true) (set : ScalarSet) (s : Scalar) :
    (set.insert t).contains s = (set.contains s || s.compare? t == some .eq) := by
  cases s with
  | null => cases t with
    | bool b => cases b <;> simp [insert, contains, Scalar.compare?]
    | _ => simp [insert, contains, Scalar.compare?]
  | bool a => cases t with
    | bool b => cases a <;> cases b <;> simp [insert, contains, Scalar.compare?]
    | _ => cases a <;> simp [insert, contains, Scalar.compare?]
  | number x => cases t with
    | number y =>
      have hy : y.isNaN = false := by rwa [Scalar.isProper, Bool.not_eq_true'] at ht
      have h : (x == y) = true ↔ Double.valueBits x = Double.valueBits y := by
        rw [Double.beq_comm, Double.beq_iff_valueBits_eq hy]
        exact eq_comm
      rw [Bool.eq_iff_iff]
      simp [insert, contains, Scalar.compare?, compareDoubles?_eq_eq_iff, h, or_comm]
    | bool b => cases b <;> simp [insert, contains, Scalar.compare?]
    | _ => simp [insert, contains, Scalar.compare?]
  | text a => cases t with
    | bool b => cases b <;> simp [insert, contains, Scalar.compare?]
    | text b =>
      rw [Bool.eq_iff_iff]
      simp [insert, contains, Scalar.compare?, or_comm]
    | _ => simp [insert, contains, Scalar.compare?]

theorem contains_foldl_insert {scalars : List Scalar} (h : ∀ t ∈ scalars, t.isProper = true)
    (set : ScalarSet) (s : Scalar) :
    (scalars.foldl insert set).contains s =
      (set.contains s || scalars.any fun t => s.compare? t == some .eq) := by
  induction scalars generalizing set with
  | nil => simp
  | cons t ts ih =>
    have ht : t.isProper = true := h t List.mem_cons_self
    have hts : ∀ u ∈ ts, u.isProper = true := fun u hu => h u (List.mem_cons_of_mem t hu)
    rw [List.foldl_cons, ih hts, contains_insert ht, List.any_cons, Bool.or_assoc]

theorem contains_ofList {scalars : List Scalar} (h : ∀ t ∈ scalars, t.isProper = true)
    (s : Scalar) :
    (ofList scalars).contains s = scalars.any fun t => s.compare? t == some .eq := by
  rw [ofList, contains_foldl_insert h, contains_empty, Bool.false_or]

end ScalarSet

end StyledMap
