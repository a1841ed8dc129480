import Mathlib.Analysis.SpecialFunctions.Pow.Real
import StyledMap.Proofs.Exact
import StyledMap.Scale

/-! # Positions between two stops

A scale measures the extent from the lower stop to an input and the extent to the upper stop, and
the position is their quotient. In exact arithmetic the extent rises or falls all the way from zero
at the lower stop, since the powers of a base do. So the two extents have one sign, and the position
goes up from zero and stays below one.

* `Scale.extent` and `position_eq`: the extents, and the position as their quotient.
* `LawfulPowers`: what is asked of powers. The powers of real numbers have it.
* `strictMono_or_strictAnti_extent`: the extent, whichever side of one the base is on.
* `isMeasured_of_mem` and `position_mono`: an input between two stops, and two inputs.
-/

set_option autoImplicit false

namespace StyledMap

namespace Scale

variable {α : Type} [Arith α]

/-- How far an input is from the stop `a`. -/
def extent (scale : Scale α) (a x : α) : α :=
  match scale with
  | linear => x - a
  | exponential base => Arith.pow base (x - a) - Arith.one
  | step => Arith.zero

theorem position_eq {scale : Scale α} {a b : α} (hs : scale ≠ step) (hab : (a == b) = false)
    (x : α) : scale.position a x b = scale.extent a x / scale.extent a b := by
  cases scale with
  | step => exact absurd rfl hs
  | linear => rw [position, hab]; rfl
  | exponential base => rw [position, hab]; rfl

theorem ofBase_ne_step (base : α) : ofBase base ≠ step := by
  unfold ofBase
  split <;> simp

end Scale

/-! ## Powers -/

/-- Powers with exponent zero are one, and powers of a base other than one rise or fall with the
exponent. -/
class LawfulPowers (K : Type) [Field K] [LinearOrder K] [Powers K] : Prop where
  pow_zero {base : K} : 0 < base → Powers.pow base 0 = 1
  strictMono {base : K} : 1 < base → StrictMono (Powers.pow base)
  strictAnti {base : K} : 0 < base → base < 1 → StrictAnti (Powers.pow base)

noncomputable instance : Powers ℝ := ⟨fun base x => base ^ x⟩

instance : LawfulPowers ℝ where
  pow_zero _ := Real.rpow_zero _
  strictMono h := fun _ _ hxy => Real.rpow_lt_rpow_of_exponent_lt h hxy
  strictAnti hpos h := fun _ _ hxy => Real.rpow_lt_rpow_of_exponent_gt hpos h hxy

/-! ## Quotients of a function that rises or falls from zero -/

section

variable {K : Type} [Field K] [LinearOrder K] {f : K → K} {a b x y : K}

theorem ne_zero_of_lt (hf : StrictMono f ∨ StrictAnti f) (ha : f a = 0) (hab : a < b) :
    f b ≠ 0 := by
  rcases hf with hf | hf
  · exact (ha ▸ hf hab).ne'
  · exact (ha ▸ hf hab).ne

variable [IsStrictOrderedRing K]

theorem quotient_mem (hf : StrictMono f ∨ StrictAnti f) (ha : f a = 0) (hax : a ≤ x)
    (hxb : x < b) : f x / f b ∈ Set.Ico (0 : K) 1 := by
  rcases hf with hf | hf
  · have hx : 0 ≤ f x := ha ▸ hf.monotone hax
    have hb : f x < f b := hf hxb
    exact ⟨div_nonneg hx (hx.trans hb.le), (div_lt_one (hx.trans_lt hb)).2 hb⟩
  · have hx : f x ≤ 0 := ha ▸ hf.antitone hax
    have hb : f b < f x := hf hxb
    exact ⟨div_nonneg_of_nonpos hx (hb.le.trans hx), (div_lt_one_of_neg (hb.trans_le hx)).2 hb⟩

theorem quotient_mono (hf : StrictMono f ∨ StrictAnti f) (ha : f a = 0) (hab : a < b)
    (hxy : x ≤ y) : f x / f b ≤ f y / f b := by
  rcases hf with hf | hf
  · have hb : 0 < f b := ha ▸ hf hab
    exact div_le_div_of_nonneg_right (hf.monotone hxy) hb.le
  · have hb : f b < 0 := ha ▸ hf hab
    exact div_le_div_of_nonpos_of_le hb.le (hf.antitone hxy)

end

namespace Scale

open Exact

variable {K : Type} [Field K] [LinearOrder K] [FloorRing K] [Powers K] [LawfulPowers K]
  {base a b x y : K}

theorem extent_self (hbase : 0 < base) (a : K) : (ofBase base).extent a a = 0 := by
  have hsub : a - a = 0 := sub_self a
  unfold ofBase
  split
  · exact hsub
  · have hpow : Powers.pow base (a - a) - 1 = 0 := by
      rw [hsub, LawfulPowers.pow_zero hbase, sub_self]
    rw [extent, one_eq]
    exact hpow

variable [IsStrictOrderedRing K]

/-- The extent from a stop rises with the input for a base of at least one, and falls for a smaller
one. -/
theorem strictMono_or_strictAnti_extent (hbase : 0 < base) (a : K) :
    StrictMono ((ofBase base).extent a) ∨ StrictAnti ((ofBase base).extent a) := by
  by_cases hone : base = 1
  · have hlinear : (ofBase base).extent a = fun x => x - a := by
      rw [ofBase, one_eq, if_pos (beq_iff_eq.2 hone)]
      rfl
    rw [hlinear]
    exact .inl fun x y hxy => sub_lt_sub_right hxy a
  · have hexp : (ofBase base).extent a = fun x => Powers.pow base (x - a) - 1 := by
      rw [ofBase, one_eq, if_neg (mt beq_iff_eq.1 hone)]
      funext x
      rw [extent, one_eq]
      rfl
    rw [hexp]
    rcases lt_or_gt_of_ne hone with hlt | hgt
    · exact .inr fun x y hxy =>
        sub_lt_sub_right (LawfulPowers.strictAnti hbase hlt (sub_lt_sub_right hxy a)) 1
    · exact .inl fun x y hxy =>
        sub_lt_sub_right (LawfulPowers.strictMono hgt (sub_lt_sub_right hxy a)) 1

/-- Between two stops there is a position: the stops are apart, so the formula is reached, the extent
that it divides by is not zero, and the quotient is at least zero and less than one. -/
structure IsMeasured (scale : Scale K) (a x b : K) : Prop where
  apart : (a == b) = false
  extent_ne_zero : scale.extent a b ≠ 0
  position_eq : scale.position a x b = scale.extent a x / scale.extent a b
  position_mem : scale.position a x b ∈ Set.Ico (0 : K) 1

theorem isMeasured_of_mem (hbase : 0 < base) (hax : a ≤ x) (hxb : x < b) :
    (ofBase base).IsMeasured a x b := by
  have hext := strictMono_or_strictAnti_extent hbase a
  have hzero := extent_self hbase a
  have hab := hax.trans_lt hxb
  have hapart : (a == b) = false := beq_eq_false_iff_ne.2 hab.ne
  have hposition := position_eq (ofBase_ne_step base) hapart x
  refine ⟨hapart, ne_zero_of_lt hext hzero hab, hposition, ?_⟩
  rw [hposition]
  exact quotient_mem hext hzero hax hxb

theorem position_mono (hbase : 0 < base) (hab : a < b) (hxy : x ≤ y) :
    (ofBase base).position a x b ≤ (ofBase base).position a y b := by
  have hapart : (a == b) = false := beq_eq_false_iff_ne.2 hab.ne
  rw [position_eq (ofBase_ne_step base) hapart, position_eq (ofBase_ne_step base) hapart]
  exact quotient_mono (strictMono_or_strictAnti_extent hbase a) (extent_self hbase a) hab hxy

end Scale

end StyledMap
