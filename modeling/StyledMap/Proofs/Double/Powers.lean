import StyledMap.Proofs.Double.Special
import StyledMap.Proofs.Scale

/-! # Positions between doubles

The powers of doubles are left open, up to the laws that rounding the exact powers keeps. The extent
from a stop to an input then lies on the way from zero to the extent of both stops, and their
quotient in `[0, 1]`. Only where the first extent is infinite or the second is zero, there is no
position: both extents are infinite then, or both are zero.

* `DoublePowers.arith`: the arithmetic of doubles with a function for powers.
* `DoublePowers.Lawful`: what is asked of the function.
* `Scale.Loses`: where a scale has no position to give.
* `isPart_position` and `isNaN_position`: a position is in `[0, 1]`, or else no number.
* `loses_linear_iff` and `loses_exponential_iff`: what the extents of both scales are lost by.
* `DoublePowers.coarse`: powers that are right at a few exponents.
-/

set_option autoImplicit false

namespace StyledMap

/-! ## Powers -/

namespace DoublePowers

/-- The arithmetic of doubles, with powers of its own. -/
scoped instance arith [Powers Float] : Arith Float :=
  { instArithFloat with pow := Powers.pow }

/-- With the powers of doubles this is the arithmetic that programs run. -/
theorem arith_pow : @arith ⟨Float.pow⟩ = instArithFloat :=
  rfl

/-- The power zero is one, and powers are ordered as their exponents are. -/
class Lawful [Powers Float] : Prop where
  pow_zero {base e : Float} : base.isFinite = true → 0 < base → (e == 0) = true →
    (Powers.pow base e == 1) = true
  pow_mono {base d e : Float} : base.isFinite = true → 1 < base → d ≤ e →
    Powers.pow base d ≤ Powers.pow base e
  pow_anti {base d e : Float} : base.isFinite = true → 0 < base → base < 1 → d ≤ e →
    Powers.pow base e ≤ Powers.pow base d

end DoublePowers

open Double DoublePowers

/-! ## Positions -/

namespace Scale

variable [Powers Float] {base a x b : Float}

/-- The extent to the input is infinite, or that of both stops is zero. -/
def Loses (scale : Scale Float) (a x b : Float) : Prop :=
  (scale.extent a x).isInf = true ∨ (scale.extent a b == 0) = true

theorem position_ofBase_eq (hax : a ≤ x) (hxb : x < b) :
    (ofBase base).position a x b = (ofBase base).extent a x / (ofBase base).extent a b := by
  refine position_eq (ofBase_ne_step base) (Bool.eq_false_of_not_eq_true fun hab => ?_) x
  have hab := (beq_iff_rank_eq.1 hab).2.2
  rw [le_iff_rank_le] at hax
  rw [lt_iff_rank_lt] at hxb
  omega

section

variable [Lawful] (hbase : base.isFinite = true) (hpos : 0 < base) (ha : a.isFinite = true)
  (hax : a ≤ x)

include hbase hpos ha hax

theorem isOnWay_extent (hxb : x ≤ b) :
    IsOnWay ((ofBase base).extent a x) ((ofBase base).extent a b) := by
  have hway := Double.sub_nonneg_of_le ha hax
  have hwhole := sub_le_sub_of_le ha hxb
  have hone : (1 : Float).isFinite = true := by decide
  have hzero : (1 : Float) - 1 = 0 := by decide
  have hpow := beq_iff_rank_eq.1 (Lawful.pow_zero hbase hpos (e := 0) (by decide))
  unfold ofBase
  split
  · exact .up hway hwhole
  · next hne =>
    have hbasen := isNaN_of_isFinite hbase
    have honen : (1 : Float).isNaN = false := by decide
    have hrank : rank base ≠ rank 1 := fun h => hne (beq_iff_rank_eq.2 ⟨hbasen, honen, h⟩)
    rcases lt_or_gt_of_ne hrank with hlt | hgt
    · have hbelow : base < 1 := lt_iff_rank_lt.2 ⟨hbasen, honen, hlt⟩
      have hle : Powers.pow base 0 ≤ 1 := le_iff_rank_le.2 ⟨hpow.1, hpow.2.1, hpow.2.2.le⟩
      have hfirst := sub_le_sub_of_le hone
        (Double.le_trans (Lawful.pow_anti hbase hpos hbelow hway) hle)
      rw [hzero] at hfirst
      exact .down hfirst (sub_le_sub_of_le hone (Lawful.pow_anti hbase hpos hbelow hwhole))
    · have habove : 1 < base := lt_iff_rank_lt.2 ⟨honen, hbasen, hgt⟩
      have hle : 1 ≤ Powers.pow base 0 := le_iff_rank_le.2 ⟨hpow.2.1, hpow.1, hpow.2.2.ge⟩
      have hfirst := sub_le_sub_of_le hone
        (Double.le_trans hle (Lawful.pow_mono hbase habove hway))
      rw [hzero] at hfirst
      exact .up hfirst (sub_le_sub_of_le hone (Lawful.pow_mono hbase habove hwhole))

variable (hxb : x < b)

include hxb

theorem isNaN_position (h : (ofBase base).Loses a x b) :
    ((ofBase base).position a x b).isNaN = true := by
  rw [position_ofBase_eq hax hxb]
  exact (isOnWay_extent hbase hpos ha hax (Double.le_of_lt hxb)).isNaN_div h

theorem isPart_position (h : ¬ (ofBase base).Loses a x b) :
    IsPart ((ofBase base).position a x b) := by
  obtain ⟨hinf, hzero⟩ := not_or.1 h
  rw [position_ofBase_eq hax hxb]
  exact (isOnWay_extent hbase hpos ha hax (Double.le_of_lt hxb)).isPart_div
    (Bool.eq_false_of_not_eq_true hinf) (Bool.eq_false_of_not_eq_true hzero)

end

/-! ## What is lost -/

/-- Different stops never have a linear extent of zero. -/
theorem loses_linear_iff (ha : a.isFinite = true) (hb : b.isFinite = true) (hab : a < b) :
    Scale.linear.Loses a x b ↔ (x - a).isInf = true := by
  refine or_iff_left fun hzero => ?_
  have hpos := (lt_iff_rank_lt.1 (sub_pos_of_lt ha hb hab)).2.2
  rw [rank_zero, show rank (b - a) = 0 from (beq_zero_iff.1 hzero).1] at hpos
  omega

/-- The powers of a base are lost where that of the way to the input is infinite, or that of the way
between the stops is one. -/
theorem loses_exponential_iff (hx : (Powers.pow base (x - a)).isNaN = false)
    (hb : (Powers.pow base (b - a)).isNaN = false) :
    (Scale.exponential base).Loses a x b ↔
      (Powers.pow base (x - a)).isInf = true ∨ (Powers.pow base (b - a) == 1) = true := by
  have hone : (1 : Float).isFinite = true := by decide
  have hbounded : IsBounded 1 (2 ^ 960) := by
    refine ⟨hone, ?_⟩
    rw [ofDouble_one, abs_one]
    exact one_le_pow₀ one_le_two
  exact or_congr (isInf_sub_iff hx hbounded) (sub_beq_zero_iff hb hone)

end Scale

/-! ## Powers at a few exponents -/

namespace DoublePowers

/-- The powers of two at zero, five and ten, and those of a large exponent, which are infinite for
bases that are not close to one. -/
def coarse (base e : Float) : Float :=
  if base < 1 then if 0 < e then 0 else 1
  else if e < 5 then 1 else if e < 10 then 32 else if e < 2000 then 1024 else 1 / 0

theorem ite_le_ite {c d e u v w : Float} (hde : d ≤ e) (hu : u ≤ u) (huw : u ≤ w) (hvw : v ≤ w) :
    (if d < c then u else v) ≤ if e < c then u else w := by
  by_cases he : e < c
  · have hd : d < c := by
      rw [le_iff_rank_le] at hde
      rw [lt_iff_rank_lt] at he ⊢
      exact ⟨hde.1, he.2.1, hde.2.2.trans_lt he.2.2⟩
    rw [if_pos hd, if_pos he]
    exact hu
  · rw [if_neg he]
    split
    · exact huw
    · exact hvw

theorem lawful_coarse : @Lawful ⟨coarse⟩ := by
  refine @Lawful.mk ⟨coarse⟩ (fun {base e} _ _ he => ?_) (fun {base d e} _ hbase hde => ?_)
    (fun {base d e} _ _ hbase hde => ?_)
  · obtain ⟨hrank, hnumber⟩ := beq_zero_iff.1 he
    have hlow : ¬ 0 < e := fun h => by
      rw [lt_iff_rank_lt, rank_zero, hrank] at h
      omega
    have hhigh : e < 5 := lt_iff_rank_lt.2 ⟨hnumber, by decide, by rw [hrank]; decide⟩
    change (coarse base e == 1) = true
    rw [coarse, if_neg hlow, if_pos hhigh]
    split <;> decide
  · change coarse base d ≤ coarse base e
    rw [coarse, coarse, if_neg (lt_asymm hbase), if_neg (lt_asymm hbase)]
    refine ite_le_ite hde (by decide) ?_ (ite_le_ite hde (by decide) ?_ (ite_le_ite hde ?_ ?_ ?_))
    · split_ifs <;> decide
    · split_ifs <;> decide
    all_goals decide
  · change coarse base e ≤ coarse base d
    rw [coarse, coarse, if_pos hbase, if_pos hbase]
    by_cases hd : 0 < d
    · have he : 0 < e := by
        rw [le_iff_rank_le] at hde
        rw [lt_iff_rank_lt] at hd ⊢
        exact ⟨hd.1, hde.2.1, hd.2.2.trans_le hde.2.2⟩
      rw [if_pos hd, if_pos he]
      decide
    · rw [if_neg hd]
      split <;> decide

end DoublePowers

end StyledMap
