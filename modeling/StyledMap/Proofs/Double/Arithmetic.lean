import StyledMap.Proofs.Double.Nearest
import StyledMap.Proofs.Double.Rounding
import StyledMap.Proofs.Exact

/-! # The arithmetic of doubles

Sums, differences, products and quotients of finite doubles are the doubles nearest to the exact
results. Everything here is about the logical model of doubles and speaks of no style.

* `Extends em v`: the mantissa `em`, with its two residual bits, stands for the number `v`.
* `IsRounded s n u`: the unpacked double `u` has the sign `s` and, before its exponent is cut off,
  the rank `n`.
* `IsNearest x q`: the double `x` is the one nearest to `q`, as far as its rank tells.
* `isNearest_add`, `isNearest_sub`, `isNearest_mul` and `isNearest_div`: a result is the double nearest
  to the exact one.
* `isFinite_iff`: finite doubles are the numbers whose rank is below that of infinity.
* `ofDouble_le_ofDouble`: doubles are ordered as the numbers are that they denote.
-/

set_option autoImplicit false

namespace StyledMap.Double

open Float.Model Float.Model.UnpackedFloat

/-! ## Residual bits -/

/-- What is missing from a mantissa with the given round bit and sticky bit. -/
def IsResidue (t : ℚ) : Bool → Bool → Prop
  | false, false => t = 0
  | false, true => 0 < t ∧ t < 1 / 2
  | true, false => t = 1 / 2
  | true, true => 1 / 2 < t ∧ t < 1

/-- A mantissa with its residual bits stands for a number. -/
def Extends (em : ExtendedMantissa) (v : ℚ) : Prop :=
  IsResidue (v - em.mantissa) em.roundBit em.stickyBit

theorem IsResidue.mem {t : ℚ} {r s : Bool} (h : IsResidue t r s) : 0 ≤ t ∧ t < 1 := by
  cases r <;> cases s <;> simp only [IsResidue] at h <;> constructor <;> linarith

theorem Extends.floor {em : ExtendedMantissa} {v : ℚ} (h : Extends em v) : ⌊v⌋₊ = em.mantissa := by
  obtain ⟨hlow, hhigh⟩ := h.mem
  have hmantissa : (0 : ℚ) ≤ em.mantissa := Nat.cast_nonneg _
  exact (Nat.floor_eq_iff (by linarith)).2 ⟨by linarith, by linarith⟩

theorem Extends.roundedMantissa {em : ExtendedMantissa} {v : ℚ} (h : Extends em v) :
    em.roundedMantissa = nearestEven v := by
  rw [nearestEven, h.floor]
  unfold Extends at h
  obtain ⟨m, r, s⟩ := em
  simp only at h ⊢
  generalize v - (m : ℚ) = t at h
  cases r <;> cases s <;> simp only [IsResidue] at h <;>
    simp only [ExtendedMantissa.roundedMantissa, ExtendedMantissa.accuracy,
      Accuracy.roundToNearestEven, roundUp]
  · rw [if_pos (by linarith)]
  · rw [if_pos h.2]
  · rw [if_neg (by linarith), if_pos h]
  · rw [if_neg (by linarith), if_neg (by linarith)]

theorem Extends.shiftRightOne {em : ExtendedMantissa} {v : ℚ} (h : Extends em v) :
    Extends em.shiftRightOne (v / 2) := by
  unfold Extends at h ⊢
  obtain ⟨m, r, s⟩ := em
  have hsplit : (m : ℚ) = 2 * (m / 2 : ℕ) + (m % 2 : ℕ) := by
    exact_mod_cast (Nat.div_add_mod m 2).symm
  have hpart : v / 2 - (m / 2 : ℕ) = (v - m + (m % 2 : ℕ)) / 2 := by
    rw [hsplit]
    ring
  simp only [ExtendedMantissa.shiftRightOne] at h ⊢
  rw [hpart]
  generalize v - (m : ℚ) = t at h
  rcases Nat.mod_two_eq_zero_or_one m with hr | hr
  all_goals
    rw [hr]
    cases r <;> cases s <;> simp only [IsResidue] at h <;> simp [IsResidue] <;>
      first | linarith | exact ⟨by linarith, by linarith⟩

theorem Extends.shiftRight {em : ExtendedMantissa} {v : ℚ} (h : Extends em v) (n : ℕ) :
    Extends (em >>> n) (v / 2 ^ n) := by
  induction n with
  | zero =>
    rw [pow_zero, div_one]
    exact h
  | succ n ih =>
    have hstep : Extends (em >>> n).shiftRightOne (v / 2 ^ n / 2) := ih.shiftRightOne
    rw [div_div, ← pow_succ] at hstep
    exact hstep

theorem extends_exact (m : ℕ) : Extends (ExtendedMantissa.ofMantissaAndAccuracy m .exact) m :=
  sub_self (m : ℚ)

theorem extends_fraction (m : ℕ) {num den : ℕ} (h : num < den) :
    Extends (ExtendedMantissa.ofMantissaAndAccuracy m (accuracyOfFraction num den))
      (m + num / den) := by
  have hden : (0 : ℚ) < den := Nat.cast_pos.2 (Nat.zero_lt_of_lt h)
  have hlt : (num : ℚ) / den < 1 := (div_lt_one hden).2 (Nat.cast_lt.2 h)
  by_cases hzero : num = 0
  · rw [hzero, accuracyOfFraction, if_pos rfl, Nat.cast_zero, zero_div, add_zero]
    exact extends_exact m
  · have hpos : (0 : ℚ) < num / den := div_pos (Nat.cast_pos.2 (Nat.pos_of_ne_zero hzero)) hden
    have hhalf : ∀ {a b : ℕ}, a < b → (a : ℚ) < b := fun h => Nat.cast_lt.2 h
    rw [accuracyOfFraction, if_neg hzero]
    rcases Nat.lt_trichotomy (2 * num) den with hcmp | hcmp | hcmp
    · have hless := hhalf hcmp
      push_cast at hless
      rw [Nat.compare_eq_lt.2 hcmp]
      change IsResidue (m + num / den - m) false true
      rw [add_sub_cancel_left]
      exact ⟨hpos, by rw [div_lt_iff₀ hden]; linarith⟩
    · have hsame : (2 * num : ℚ) = den := by exact_mod_cast hcmp
      rw [Nat.compare_eq_eq.2 hcmp]
      change IsResidue (m + num / den - m) true false
      rw [add_sub_cancel_left]
      change (num : ℚ) / den = 1 / 2
      rw [div_eq_iff hden.ne']
      linarith
    · have hmore := hhalf hcmp
      push_cast at hmore
      rw [Nat.compare_eq_gt.2 hcmp]
      change IsResidue (m + num / den - m) true true
      rw [add_sub_cancel_left]
      exact ⟨by rw [lt_div_iff₀ hden]; linarith, hlt⟩

/-! ## Rounding -/

/-- An unpacked double of sign `s` whose other bits would write the number `n`, if there were an
exponent for every number. -/
inductive IsRounded (s : Sign) (n : ℕ) : UnpackedFloat → Prop
  | zero (h : n = 0) : IsRounded s n (.zero s)
  | finite (m k : ℕ) (e : ℤ) (hm : 0 < m) (h : n = k * 2 ^ 52 + m) (he : e = k - 1074)
      (hc : m < 2 ^ 53) (hn : 2 ^ 52 ≤ m ∨ k = 0) : IsRounded s n (.finite s m e hm)

/-- Two to the binary logarithm of a number that is known up to its whole part. -/
theorem Extends.two_pow_log2_le {m : ℕ} {acc : Accuracy} {v : ℚ} (hm : m ≠ 0)
    (hv : Extends (ExtendedMantissa.ofMantissaAndAccuracy m acc) v) :
    (2 : ℚ) ^ (m.log2 : ℤ) ≤ v ∧ v < 2 ^ (m.log2 + 1 : ℤ) := by
  obtain ⟨hlow, hhigh⟩ := hv.mem
  rw [mantissa_ofMantissaAndAccuracy] at hlow hhigh
  have hself : ((2 ^ m.log2 : ℕ) : ℚ) ≤ m := Nat.cast_le.2 (Nat.log2_self_le hm)
  have hnext : ((m + 1 : ℕ) : ℚ) ≤ (2 ^ (m.log2 + 1) : ℕ) := Nat.cast_le.2 Nat.lt_log2_self
  push_cast at hself hnext
  rw [zpow_natCast, ← Nat.cast_add_one, zpow_natCast]
  exact ⟨by linarith, by linarith⟩

/-- The distance of the doubles around `v * 2 ^ e`, where `v` is known up to its whole part. -/
theorem place_of_extends {m : ℕ} {acc : Accuracy} {e : ℤ} {v : ℚ}
    (hv : Extends (ExtendedMantissa.ofMantissaAndAccuracy m acc) v)
    (he : e ≤ Format.binary64.targetExponent (totalExponent m e)) :
    place (v * 2 ^ (e + 1074)) = (m.log2 + e + 1022).toNat := by
  rw [targetExponent_binary64, totalExponent] at he
  have hscale : (0 : ℚ) < 2 ^ (e + 1074) := zpow_pos two_pos _
  by_cases hm : m = 0
  · -- Less than one unit is left.
    obtain ⟨hlow, hhigh⟩ := hv.mem
    rw [mantissa_ofMantissaAndAccuracy, hm, Nat.cast_zero, sub_zero] at hlow hhigh
    have hlog : m.log2 = 0 := by rw [hm]; rfl
    have hle : (2 : ℚ) ^ (e + 1074) ≤ 1 := zpow_le_one_of_nonpos₀ one_le_two (by omega)
    have hk : (m.log2 + e + 1022).toNat = 0 := by omega
    rw [hk]
    rcases hlow.eq_or_lt with rfl | hpos
    · simp [place]
    · refine place_eq (mul_pos hpos hscale) ?_ (.inl rfl)
      have hlt : v * 2 ^ (e + 1074) < 1 * 1 := mul_lt_mul hhigh hle hscale zero_le_one
      norm_num at hlt ⊢
      linarith
  · obtain ⟨hlow, hhigh⟩ := hv.two_pow_log2_le hm
    have hpos : 0 < v := (zpow_pos two_pos _).trans_le hlow
    have hlow' := mul_le_mul_of_nonneg_right hlow hscale.le
    have hhigh' := mul_lt_mul_of_pos_right hhigh hscale
    rw [← zpow_add₀ two_ne_zero] at hlow' hhigh'
    refine place_eq (mul_pos hpos hscale) (hhigh'.trans_le ?_) ?_
    · rw [← zpow_natCast]
      exact zpow_le_zpow_right₀ one_le_two (by push_cast; omega)
    · by_cases hk : (m.log2 + e + 1022).toNat = 0
      · exact .inl hk
      · refine .inr (le_trans ?_ hlow')
        rw [← zpow_natCast]
        exact zpow_le_zpow_right₀ one_le_two (by push_cast; omega)

/-- A mantissa of at most 53 bits is kept. If it has one more, the doubles above are twice as far
from each other. -/
theorem isRounded_carry {s : Sign} {n k : ℕ} (hn : n ≤ 2 ^ 53) (hk : 0 < k → 2 ^ 52 ≤ n) :
    let shifted := shiftToTargetExponent Format.binary64 n (k - 1074) .exact
    IsRounded s (k * 2 ^ 52 + n)
      (if h : shifted.1.mantissa = 0 then .zero s
        else .finite s shifted.1.mantissa shifted.2 (Nat.pos_of_ne_zero h)) := by
  intro shifted
  obtain ⟨j, hj, hmantissa, hexponent⟩ : ∃ j : ℕ,
      (j : ℤ) = max ((n.log2 : ℤ) - 52) 0 ∧ shifted.1.mantissa = n / 2 ^ j ∧
        shifted.2 = k - 1074 + j := by
    refine ⟨_, ?_, (mantissa_shiftRight _ _).trans ?_, rfl⟩
    · rw [targetExponent_binary64, totalExponent]
      omega
    · rw [mantissa_ofMantissaAndAccuracy]
  rcases Nat.lt_or_eq_of_le hn with hlt | rfl
  · have hlog : n.log2 ≤ 52 := by
      by_cases hzero : n = 0
      · simp [hzero]
      · exact Nat.le_of_lt_succ ((Nat.log2_lt hzero).2 hlt)
    obtain rfl : j = 0 := by omega
    rw [pow_zero, Nat.div_one] at hmantissa
    split
    · next h => exact .zero (by omega)
    · next h =>
      simp only [hmantissa, hexponent]
      exact .finite n k _ _ rfl (by omega) hlt (by omega)
  · have hlog : (2 ^ 53).log2 = 53 := Nat.log2_two_pow
    obtain rfl : j = 1 := by omega
    split
    · next h => omega
    · next h =>
      simp only [hmantissa, hexponent]
      exact .finite (2 ^ 53 / 2 ^ 1) (k + 1) _ _ (by omega) (by omega) (by omega) (by omega)

/-- What is known well enough is rounded to the nearest double. -/
theorem isRounded_roundWithAccuracy (s : Sign) {m : ℕ} {acc : Accuracy} {e : ℤ} {v : ℚ}
    (hv : Extends (ExtendedMantissa.ofMantissaAndAccuracy m acc) v)
    (he : e ≤ Format.binary64.targetExponent (totalExponent m e)) :
    let w := v * 2 ^ (e + 1074)
    IsRounded s (place w * 2 ^ 52 + nearestEven (w / 2 ^ place w))
      (roundWithAccuracy Format.binary64 s m e acc) := by
  intro w
  have hplace : place w = (m.log2 + e + 1022).toNat := place_of_extends hv he
  rw [targetExponent_binary64, totalExponent] at he
  obtain ⟨j, hj, hshift⟩ : ∃ j : ℕ, (j : ℤ) = place w - 1074 - e ∧
      shiftToTargetExponent Format.binary64 m e acc =
        (ExtendedMantissa.ofMantissaAndAccuracy m acc >>> j, e + j) := by
    refine ⟨_, ?_, rfl⟩
    rw [targetExponent_binary64, totalExponent]
    omega
  have hvalue : v / 2 ^ j = w / 2 ^ place w := by
    have hpower : (2 : ℚ) ^ (e + 1074) * 2 ^ j = 2 ^ place w := by
      rw [← zpow_natCast, ← zpow_natCast, ← zpow_add₀ two_ne_zero]
      congr 1
      omega
    have hscale : (2 : ℚ) ^ (e + 1074) ≠ 0 := zpow_ne_zero _ two_ne_zero
    change v / 2 ^ j = v * 2 ^ (e + 1074) / 2 ^ place w
    rw [← hpower, mul_comm v, mul_div_mul_left _ _ hscale]
  have hrounded := (hv.shiftRight j).roundedMantissa
  rw [hvalue] at hrounded
  have hexponent : e + j = place w - 1074 := by omega
  have hnonneg : 0 ≤ w := by
    obtain ⟨hlow, -⟩ := hv.mem
    exact mul_nonneg ((Nat.cast_nonneg _).trans (sub_nonneg.1 hlow)) (zpow_pos two_pos _).le
  unfold roundWithAccuracy
  simp only [hshift, hrounded, hexponent]
  exact isRounded_carry (nearestEven_place_le hnonneg) (le_nearestEven_place hnonneg)

/-! ## Packing -/

theorem sign_packComponents (s : Sign) (e : BitVec 11) (m : BitVec 52) :
    Sign.ofBitVec (unpackSign (packComponents Format.binary64 s e m)) = s := by
  have hfirst : unpackSign (packComponents Format.binary64 s e m) = s.toBitVec := by
    simp only [unpackSign, packComponents, BitVec.extractLsb]
    rw [BitVec.extractLsb'_append_eq_of_le (by decide),
      BitVec.extractLsb'_append_eq_of_le (by decide)]
    cases s <;> rfl
  rw [hfirst]
  cases s <;> rfl

theorem rank_of_components {x : Float} {s : Sign} {e : BitVec 11} {m : BitVec 52}
    (hx : x.toBits.toBitVec = packComponents Format.binary64 s e m) :
    rank x = s.apply (e.toNat * 2 ^ 52 + m.toNat : ℕ) := by
  have hs := sign_unpack x
  have he := unpackExponent_toNat x.toBits.toBitVec
  have hm := unpackMantissa_toNat x.toBits.toBitVec
  rw [hx, sign_packComponents] at hs
  rw [hx, unpackExponent_packComponents, ← hx] at he
  rw [hx, unpackMantissa_packComponents, ← hx] at hm
  have hbits : x.toBits.toBitVec.toNat = x.toBits.toNat := rfl
  rw [hbits] at he hm
  rw [rank, ← hs]
  congr 2
  omega

theorem rank_pack {s : Sign} {n : ℕ} {u : UnpackedFloat} (h : IsRounded s n u) :
    rank (.ofModel (.pack u)) = s.apply (min n (2047 * 2 ^ 52) : ℕ) := by
  cases h with
  | zero h =>
    rw [rank_of_components (s := s) (e := 0) (m := 0) rfl, h]
    rfl
  | finite m k e hm h he hc hn =>
    have hbiased : (e + Format.binary64.exponentBias +
        Format.binary64.mantissaBitsWithoutImplicit).toNat = k + 1 := by
      change (e + (1023 : Nat) + (52 : Nat)).toNat = _
      omega
    have hbits : (Float.ofModel (.pack (.finite s m e hm))).toBits.toBitVec =
        UnpackedFloat.pack Format.binary64 (.finite s m e hm) := rfl
    have hlow : (BitVec.ofNat 52 m).toNat = m % 2 ^ 52 := BitVec.toNat_ofNat _ _
    simp only [UnpackedFloat.pack, hbiased] at hbits
    split at hbits
    · next hbig =>
      -- Beyond the greatest exponent there is infinity.
      have hbig : 2 ^ 11 ≤ k + 1 + 1 := hbig
      have hfield : (-1#_ : BitVec 11).toNat = 2047 := rfl
      rw [rank_of_components hbits, hfield]
      congr 2
      change 2047 * 2 ^ 52 + 0 = _
      omega
    · next hsmall =>
      have hsmall : ¬ 2 ^ 11 ≤ k + 1 + 1 := hsmall
      split at hbits
      · next hnormal =>
        have hlog : m.log2 = 52 := Nat.succ_injective hnormal
        have hone : 2 ^ 52 ≤ m := by
          have h := Nat.log2_self_le (Nat.ne_of_gt hm)
          rwa [hlog] at h
        have hfield : (BitVec.ofNat 11 (k + 1)).toNat = k + 1 := by
          rw [BitVec.toNat_ofNat]
          exact Nat.mod_eq_of_lt (by omega)
        rw [rank_of_components hbits, hfield, hlow]
        congr 2
        omega
      · next hsub =>
        have hlt : m < 2 ^ 52 := by
          by_contra hge
          have hlog : m.log2 = 52 := (Nat.log2_eq_iff (by omega)).2 ⟨by omega, hc⟩
          exact hsub (congrArg (· + 1) hlog)
        rw [rank_of_components hbits, hlow]
        congr 2
        change 0 * 2 ^ 52 + _ = _
        omega

/-! ## Values -/

/-- One with a sign. -/
def signValue : Sign → ℚ
  | .negative => -1
  | .positive => 1

theorem nearestRank_signValue_mul (s : Sign) {q : ℚ} (hq : 0 ≤ q) :
    nearestRank (signValue s * q) = s.apply (magnitudeRank (q * unitsOfOne) : ℕ) := by
  cases s with
  | negative =>
    have hvalue : signValue .negative * q = -q := by simp [signValue]
    rw [hvalue, nearestRank_neg, nearestRank_of_nonneg hq]
    rfl
  | positive =>
    have hvalue : signValue .positive * q = q := by simp [signValue]
    rw [hvalue, nearestRank_of_nonneg hq]
    rfl

/-- The numbers that the bits of a finite double write. -/
structure IsWritten (x : Float) (m k : ℕ) : Prop where
  bits : x.toBits.toNat % 2 ^ 63 = k * 2 ^ 52 + m
  mantissa_lt : m < 2 ^ 53
  normal : 2 ^ 52 ≤ m ∨ k = 0
  exponent_le : k ≤ 2045
  unpack : (m = 0 ∧ x.toModel.unpack = .zero (sign x)) ∨
    ∃ (hm : 0 < m) (e : ℤ), e = k - 1074 ∧ x.toModel.unpack = .finite (sign x) m e hm

theorem exists_isWritten {x : Float} (hx : x.isFinite = true) : ∃ m k, IsWritten x m k := by
  have hshape := shape_unpack x
  change x.toModel.unpack.isFinite = true at hx
  generalize hu : x.toModel.unpack = u at hshape hx
  cases hshape with
  | infinity h => simp [UnpackedFloat.isFinite] at hx
  | notANumber h => simp [UnpackedFloat.isFinite] at hx
  | zero h => exact ⟨0, 0, h, by decide, .inr rfl, Nat.zero_le _, .inl ⟨rfl, hu⟩⟩
  | finite m k e hm h he hk hc hn => exact ⟨m, k, h, hc, hn, hk, .inr ⟨hm, e, he, hu⟩⟩

theorem IsWritten.parts_eq {x : Float} {m k : ℕ} (h : IsWritten x m k) :
    parts x = ⟨m, k - 1074⟩ := by
  have hbits := h.bits
  have hc := h.mantissa_lt
  have hk := h.exponent_le
  unfold parts
  obtain hn | rfl := h.normal
  · have hfield : x.toBits.toNat / 2 ^ 52 % 2 ^ 11 = k + 1 := by omega
    have hlow : x.toBits.toNat % 2 ^ 52 + 2 ^ 52 = m := by omega
    simp only [hfield, hlow]
    rw [if_neg (Nat.succ_ne_zero k)]
    congr 1
    change ((k + 1 : ℕ) : ℤ) - 1075 = _
    omega
  · rcases Nat.lt_or_ge m (2 ^ 52) with hlt | hge
    · have hfield : x.toBits.toNat / 2 ^ 52 % 2 ^ 11 = 0 := by omega
      have hlow : x.toBits.toNat % 2 ^ 52 = m := by omega
      simp only [hfield, hlow]
      rfl
    · have hfield : x.toBits.toNat / 2 ^ 52 % 2 ^ 11 = 1 := by omega
      have hlow : x.toBits.toNat % 2 ^ 52 + 2 ^ 52 = m := by omega
      simp only [hfield, hlow]
      rfl

theorem IsWritten.ofDouble_eq {x : Float} {m k : ℕ} (hx : x.isFinite = true) (h : IsWritten x m k) :
    (Exact.ofDouble x : ℚ) = signValue (sign x) * (m * 2 ^ (k - 1074 : ℤ)) := by
  have hmagnitude : ((parts x).fraction.1 : ℚ) / (parts x).fraction.2 = m * 2 ^ (k - 1074 : ℤ) := by
    rw [h.parts_eq, Parts.fraction]
    split
    · next hpos =>
      have hcast : ((k - 1074 : ℤ).toNat : ℤ) = k - 1074 := Int.toNat_of_nonneg hpos
      rw [Nat.cast_one, div_one, Nat.cast_mul, Nat.cast_pow, Nat.cast_ofNat, ← zpow_natCast, hcast]
    · next hneg =>
      have hcast : ((-(k - 1074 : ℤ)).toNat : ℤ) = -(k - 1074) := Int.toNat_of_nonneg (neg_nonneg.2 (not_le.1 hneg).le)
      rw [Nat.cast_pow, Nat.cast_ofNat, ← zpow_natCast, hcast, zpow_neg, div_inv_eq_mul]
  rw [Exact.ofDouble, if_pos hx]
  simp only [hmagnitude]
  cases hsign : isNegative x with
  | true => simp [sign, hsign, signValue]
  | false => simp [sign, hsign, signValue]

theorem IsWritten.rank_eq {x : Float} {m k : ℕ} (h : IsWritten x m k) :
    rank x = (sign x).apply (k * 2 ^ 52 + m : ℕ) := by
  rw [rank, h.bits]

theorem mul_zpow_mul_unitsOfOne (v : ℚ) (e : ℤ) :
    v * 2 ^ e * unitsOfOne = v * 2 ^ (e + 1074) := by
  have hunits : unitsOfOne = 2 ^ (1074 : ℤ) := rfl
  rw [hunits, mul_assoc, ← zpow_add₀ two_ne_zero]

/-- What is a double already is not rounded. -/
theorem nearestRank_signValue_mul_zpow (s : Sign) {m k : ℕ} (hc : m < 2 ^ 53)
    (hn : 2 ^ 52 ≤ m ∨ k = 0) (hk : k ≤ 2045) :
    nearestRank (signValue s * (m * 2 ^ (k - 1074 : ℤ))) = s.apply (k * 2 ^ 52 + m : ℕ) := by
  have hnonneg : (0 : ℚ) ≤ m * 2 ^ (k - 1074 : ℤ) :=
    mul_nonneg (Nat.cast_nonneg m) (zpow_pos two_pos _).le
  have hunits : (m : ℚ) * 2 ^ (k - 1074 : ℤ) * unitsOfOne = m * 2 ^ k := by
    rw [mul_zpow_mul_unitsOfOne, sub_add_cancel, zpow_natCast]
  rw [nearestRank_signValue_mul s hnonneg, hunits]
  congr 2
  rcases Nat.eq_zero_or_pos m with rfl | hm
  · obtain rfl : k = 0 := by omega
    simp [magnitudeRank_zero]
  · exact magnitudeRank_mul_two_pow hm hc hn hk

/-- A double is the one nearest to a number. -/
structure IsNearest (x : Float) (q : ℚ) : Prop where
  isNaN : x.isNaN = false
  rank : rank x = nearestRank q

theorem isNearest_ofDouble {x : Float} (hx : x.isFinite = true) :
    IsNearest x (Exact.ofDouble x) := by
  obtain ⟨m, k, h⟩ := exists_isWritten hx
  constructor
  · change x.toModel.unpack.isNaN = false
    obtain ⟨-, hu⟩ | ⟨_, _, -, hu⟩ := h.unpack <;> rw [hu] <;> rfl
  · rw [h.ofDouble_eq hx, h.rank_eq]
    exact (nearestRank_signValue_mul_zpow _ h.mantissa_lt h.normal h.exponent_le).symm

/-! ## Results -/

theorem IsRounded.isNaN {s : Sign} {n : ℕ} {u : UnpackedFloat} (h : IsRounded s n u) :
    u.isNaN = false := by
  cases h <;> rfl

theorem isNearest_roundWithAccuracy (s : Sign) {m : ℕ} {acc : Accuracy} {e : ℤ} {v : ℚ}
    (hv : Extends (ExtendedMantissa.ofMantissaAndAccuracy m acc) v)
    (he : e ≤ Format.binary64.targetExponent (totalExponent m e)) :
    IsNearest (.ofModel (.pack (roundWithAccuracy Format.binary64 s m e acc)))
      (signValue s * (v * 2 ^ e)) := by
  have hrounded := isRounded_roundWithAccuracy s hv he
  obtain ⟨hlow, -⟩ := hv.mem
  have hnonneg : 0 ≤ v * 2 ^ e :=
    mul_nonneg ((Nat.cast_nonneg _).trans (sub_nonneg.1 hlow)) (zpow_pos two_pos _).le
  refine ⟨isNaN_unpack_pack hrounded.isNaN, ?_⟩
  rw [rank_pack hrounded, nearestRank_signValue_mul s hnonneg, mul_zpow_mul_unitsOfOne]
  rfl

theorem isNearest_round (s : Sign) {m : ℕ} (hm : m ≠ 0) (e : ℤ) :
    IsNearest (.ofModel (.pack (UnpackedFloat.round Format.binary64 s m e)))
      (signValue s * (m * 2 ^ e)) := by
  obtain ⟨j, hj, hdecrease⟩ : ∃ j : ℕ,
      (j : ℤ) = max (e - max ((m.log2 : ℤ) + 1 + e - 53) (-1074)) 0 ∧
        decreaseExponent m e (Format.binary64.targetExponent (totalExponent m e)) =
          (m * 2 ^ j, e - j) := by
    refine ⟨_, ?_, by rw [← Nat.shiftLeft_eq]; rfl⟩
    rw [targetExponent_binary64, totalExponent]
    omega
  have hlog : (m * 2 ^ j).log2 = m.log2 + j := log2_mul_two_pow hm j
  have hvalue : ((m * 2 ^ j : ℕ) : ℚ) * 2 ^ (e - j) = m * 2 ^ e := by
    push_cast
    rw [mul_assoc, ← zpow_natCast, ← zpow_add₀ two_ne_zero, add_sub_cancel]
  have hnearest := isNearest_roundWithAccuracy s (extends_exact (m * 2 ^ j)) (e := e - j) (by
    rw [targetExponent_binary64, totalExponent, hlog]
    push_cast
    omega)
  rw [hvalue] at hnearest
  rw [UnpackedFloat.round]
  simp only [hdecrease]
  exact hnearest

theorem isNearest_zero (s : Sign) : IsNearest (.ofModel (.pack (.zero s))) 0 := by
  have hrounded : IsRounded s 0 (.zero s) := .zero rfl
  refine ⟨isNaN_unpack_pack rfl, ?_⟩
  rw [rank_pack hrounded, nearestRank_of_nonneg le_rfl, zero_mul, magnitudeRank_zero]
  cases s <;> rfl

theorem isNearest_normalize (m e : ℤ) (z : Sign) :
    IsNearest (.ofModel (.pack (UnpackedFloat.normalize Format.binary64 m e z))) (m * 2 ^ e) := by
  rcases lt_trichotomy m 0 with h | rfl | h
  · have hcast : (((-m).toNat : ℤ) : ℚ) = -m := by
      rw [Int.toNat_of_nonneg (by omega), Int.cast_neg]
    have hvalue : signValue .negative * ((-m).toNat * 2 ^ e) = (m * 2 ^ e : ℚ) := by
      rw [← Int.cast_natCast, hcast]
      simp [signValue]
    rw [UnpackedFloat.normalize, Int.compare_eq_lt.2 h, ← hvalue]
    exact isNearest_round .negative (by omega) e
  · rw [UnpackedFloat.normalize, Int.compare_eq_eq.2 rfl, Int.cast_zero, zero_mul]
    exact isNearest_zero z
  · have hcast : ((m.toNat : ℤ) : ℚ) = m := by rw [Int.toNat_of_nonneg h.le]
    have hvalue : signValue .positive * (m.toNat * 2 ^ e) = (m * 2 ^ e : ℚ) := by
      rw [← Int.cast_natCast, hcast]
      simp [signValue]
    rw [UnpackedFloat.normalize, Int.compare_eq_gt.2 h, ← hvalue]
    exact isNearest_round .positive (by omega) e

/-! ## Operations -/

/-- An unpacked double that is finite, and what it stands for. -/
inductive Denotes : UnpackedFloat → ℚ → Prop
  | zero (s : Sign) : Denotes (.zero s) 0
  | finite (s : Sign) (m : ℕ) (e : ℤ) (hm : 0 < m) (hlow : -1074 ≤ e) (hhigh : e ≤ 971)
      (hc : m < 2 ^ 53) (hn : 2 ^ 52 ≤ m ∨ e = -1074) :
      Denotes (.finite s m e hm) (signValue s * (m * 2 ^ e))

theorem denotes_unpack {x : Float} (hx : x.isFinite = true) :
    Denotes x.toModel.unpack (Exact.ofDouble x) := by
  obtain ⟨m, k, h⟩ := exists_isWritten hx
  have hk := h.exponent_le
  rw [h.ofDouble_eq hx]
  obtain ⟨rfl, hu⟩ | ⟨hm, e, rfl, hu⟩ := h.unpack
  · rw [hu, Nat.cast_zero, zero_mul, mul_zero]
    exact .zero _
  · rw [hu]
    refine .finite _ m _ hm (by omega) (by omega) h.mantissa_lt ?_
    exact h.normal.imp_right fun hzero => by omega

/-- What is packed and was a double before is not rounded. -/
theorem Denotes.isNearest {u : UnpackedFloat} {q : ℚ} (h : Denotes u q) :
    IsNearest (.ofModel (.pack u)) q := by
  cases h with
  | zero s => exact isNearest_zero s
  | finite s m e hm hlow hhigh hc hn =>
    obtain ⟨k, rfl⟩ : ∃ k : ℕ, e = k - 1074 := ⟨(e + 1074).toNat, by omega⟩
    have hn' : 2 ^ 52 ≤ m ∨ k = 0 := hn.imp_right fun h => by omega
    have hrounded : IsRounded s (k * 2 ^ 52 + m) (.finite s m (k - 1074) hm) :=
      .finite m k _ hm rfl rfl hc hn'
    have hmin : min (k * 2 ^ 52 + m) (2047 * 2 ^ 52) = k * 2 ^ 52 + m := by omega
    refine ⟨isNaN_unpack_pack rfl, ?_⟩
    rw [rank_pack hrounded, hmin, nearestRank_signValue_mul_zpow s hc hn' (by omega)]

theorem signValue_neg (s : Sign) : signValue (-s) = -signValue s := by
  cases s with
  | negative => exact (neg_neg (1 : ℚ)).symm
  | positive => rfl

theorem Denotes.neg {u : UnpackedFloat} {q : ℚ} (h : Denotes u q) : Denotes u.neg (-q) := by
  cases h with
  | zero s =>
    rw [neg_zero]
    exact .zero _
  | finite s m e hm hlow hhigh hc hn =>
    rw [← neg_mul, ← signValue_neg]
    exact .finite _ m e hm hlow hhigh hc hn

theorem apply_decreaseExponent (s : Sign) (m : ℕ) {e t : ℤ} (h : t ≤ e) :
    ((s.apply (decreaseExponent m e t).1 : ℤ) : ℚ) * 2 ^ t = signValue s * (m * 2 ^ e) := by
  have hcast : ((e - t).toNat : ℤ) = e - t := Int.toNat_of_nonneg (by omega)
  have hpower : ((decreaseExponent m e t).1 : ℚ) * 2 ^ t = m * 2 ^ e := by
    rw [decreaseExponent, Nat.shiftLeft_eq, Nat.cast_mul, Nat.cast_pow, Nat.cast_ofNat,
      ← zpow_natCast, hcast, mul_assoc, ← zpow_add₀ two_ne_zero, sub_add_cancel]
  cases s with
  | negative => simp [signValue, Sign.apply, hpower]
  | positive => simp [signValue, Sign.apply, hpower]

theorem Denotes.isNearest_add {u v : UnpackedFloat} {p q : ℚ} (hu : Denotes u p)
    (hv : Denotes v q) : IsNearest (.ofModel (.pack (u.add Format.binary64 v))) (p + q) := by
  cases hu with
  | zero s =>
    cases hv with
    | zero t =>
      rw [add_zero, UnpackedFloat.add]
      split <;> exact isNearest_zero _
    | finite t n d hn hlow hhigh hc hnormal =>
      rw [zero_add]
      exact (Denotes.finite t n d hn hlow hhigh hc hnormal).isNearest
  | finite s m e hm hlow hhigh hc hnormal =>
    cases hv with
    | zero t =>
      rw [add_zero]
      exact (Denotes.finite s m e hm hlow hhigh hc hnormal).isNearest
    | finite t n d hn hlow' hhigh' hc' hnormal' =>
      have hsum := isNearest_normalize (s.apply (decreaseExponent m e (min e d)).1 +
        t.apply (decreaseExponent n d (min e d)).1) (min e d) .positive
      rw [Int.cast_add, add_mul, apply_decreaseExponent s m (min_le_left e d),
        apply_decreaseExponent t n (min_le_right e d)] at hsum
      exact hsum

theorem sub_eq_add (u v : UnpackedFloat) :
    u.sub Format.binary64 v = u.add Format.binary64 v.neg := by
  cases u with
  | finite s m e hm =>
    cases v with
    | finite t n d hn =>
      have happly (k : ℕ) : (-t).apply k = -t.apply k := by
        cases t with
        | negative => exact (Int.neg_neg _).symm
        | positive => rfl
      simp only [UnpackedFloat.sub, UnpackedFloat.neg, UnpackedFloat.add, happly, ← Int.sub_eq_add_neg]
    | _ => rfl
  | _ => cases v <;> rfl

theorem Denotes.isNearest_sub {u v : UnpackedFloat} {p q : ℚ} (hu : Denotes u p)
    (hv : Denotes v q) : IsNearest (.ofModel (.pack (u.sub Format.binary64 v))) (p - q) := by
  rw [sub_eq_add, sub_eq_add_neg]
  exact hu.isNearest_add hv.neg

theorem signValue_mul (s t : Sign) : signValue (s * t) = signValue s * signValue t := by
  cases s with
  | negative =>
    cases t with
    | negative => exact (by norm_num : (1 : ℚ) = -1 * -1)
    | positive => exact (by norm_num : (-1 : ℚ) = -1 * 1)
  | positive =>
    cases t with
    | negative => exact (by norm_num : (-1 : ℚ) = 1 * -1)
    | positive => exact (by norm_num : (1 : ℚ) = 1 * 1)

theorem signValue_div (s t : Sign) : signValue (s / t) = signValue s / signValue t := by
  cases s with
  | negative =>
    cases t with
    | negative => exact (by norm_num : (1 : ℚ) = -1 / -1)
    | positive => exact (by norm_num : (-1 : ℚ) = -1 / 1)
  | positive =>
    cases t with
    | negative => exact (by norm_num : (-1 : ℚ) = 1 / -1)
    | positive => exact (by norm_num : (1 : ℚ) = 1 / 1)

/-- A product of mantissas has enough bits, or it is below the least positive double. -/
theorem add_le_targetExponent {m n : ℕ} {e d : ℤ} (hm : 0 < m) (hn : 0 < n)
    (hm' : 2 ^ 52 ≤ m ∨ e = -1074) (hn' : 2 ^ 52 ≤ n ∨ d = -1074) :
    e + d ≤ Format.binary64.targetExponent (totalExponent (m * n) (e + d)) := by
  rw [targetExponent_binary64, totalExponent]
  by_cases h : 2 ^ 52 ≤ m * n
  · have hlog : 52 ≤ (m * n).log2 := (Nat.le_log2 (Nat.mul_pos hm hn).ne').2 h
    omega
  · have hmle : m ≤ m * n := Nat.le_mul_of_pos_right m hn
    have hnle : n ≤ m * n := Nat.le_mul_of_pos_left n hm
    omega

theorem Denotes.isNearest_mul {u v : UnpackedFloat} {p q : ℚ} (hu : Denotes u p)
    (hv : Denotes v q) : IsNearest (.ofModel (.pack (u.mul Format.binary64 v))) (p * q) := by
  cases hu with
  | zero s =>
    rw [zero_mul]
    cases hv with
    | zero t => exact isNearest_zero _
    | finite t n d hn hlow hhigh hc hnormal => exact isNearest_zero _
  | finite s m e hm hlow hhigh hc hnormal =>
    cases hv with
    | zero t =>
      rw [mul_zero]
      exact isNearest_zero _
    | finite t n d hn hlow' hhigh' hc' hnormal' =>
      have hproduct := isNearest_roundWithAccuracy (s * t) (extends_exact (m * n))
        (add_le_targetExponent hm hn hnormal hnormal')
      have hvalue : signValue (s * t) * ((m * n : ℕ) * 2 ^ (e + d)) =
          signValue s * (m * 2 ^ e) * (signValue t * (n * 2 ^ d)) := by
        rw [signValue_mul, Nat.cast_mul, zpow_add₀ two_ne_zero]
        ring
      rw [hvalue] at hproduct
      exact hproduct

/-- A quotient of mantissas is taken with enough bits. -/
theorem divCore_spec {m n : ℕ} (e d : ℤ) (hm : 0 < m) (hn : 0 < n) :
    ∃ (l : ℕ) (t : ℤ) (acc : Accuracy) (v : ℚ), divCore Format.binary64 m e n d = (l, t, acc) ∧
      Extends (ExtendedMantissa.ofMantissaAndAccuracy l acc) v ∧
      v * 2 ^ t = m * 2 ^ e / (n * 2 ^ d) ∧
      t ≤ Format.binary64.targetExponent (totalExponent l t) := by
  obtain ⟨t, ht⟩ : ∃ t, t = min (e - d) (max (m.log2 + 1 + e - (n.log2 + 1 + d) - 53) (-1074)) :=
    ⟨_, rfl⟩
  obtain ⟨j, hj⟩ : ∃ j : ℕ, (j : ℤ) = e - d - t := ⟨(e - d - t).toNat, by omega⟩
  have hcore : divCore Format.binary64 m e n d =
      (m * 2 ^ j / n, t, accuracyOfFraction (m * 2 ^ j % n) n) := by
    have hshift : (e - d - t).toNat = j := by omega
    rw [divCore, targetExponent_binary64, totalExponent, totalExponent, ← ht, hshift,
      Nat.shiftLeft_eq]
  have hnpos : (0 : ℚ) < n := Nat.cast_pos.2 hn
  have hquotient : ((m * 2 ^ j / n : ℕ) : ℚ) + (m * 2 ^ j % n : ℕ) / n = m * 2 ^ j / n := by
    have hsplit : ((n * (m * 2 ^ j / n) + m * 2 ^ j % n : ℕ) : ℚ) = (m * 2 ^ j : ℕ) := by
      rw [Nat.div_add_mod]
    push_cast at hsplit
    field_simp
    linarith
  refine ⟨_, t, _, _, hcore, extends_fraction _ (Nat.mod_lt _ hn), ?_, ?_⟩
  · rw [hquotient]
    have hpower : (2 : ℚ) ^ j * 2 ^ t = 2 ^ e / 2 ^ d := by
      rw [← zpow_natCast, ← zpow_add₀ two_ne_zero, ← zpow_sub₀ two_ne_zero, hj, sub_add_cancel]
    calc (m * 2 ^ j / n * 2 ^ t : ℚ) = m * (2 ^ j * 2 ^ t) / n := by ring
      _ = m * 2 ^ e / (n * 2 ^ d) := by
        rw [hpower]
        field_simp
  · rw [targetExponent_binary64, totalExponent]
    -- Unless the quotient is small, its whole part has at least 53 bits.
    by_cases hsmall : t ≤ -1074
    · exact hsmall.trans (le_max_right _ _)
    · have hbits : n.log2 + 1 + 52 ≤ m.log2 + j := by omega
      have hlow : 2 ^ (m.log2 + j) ≤ m * 2 ^ j := by
        rw [Nat.pow_add]
        exact Nat.mul_le_mul_right _ (Nat.log2_self_le hm.ne')
      have hhigh : n * 2 ^ 52 ≤ m * 2 ^ j :=
        calc n * 2 ^ 52 ≤ 2 ^ (n.log2 + 1) * 2 ^ 52 :=
              Nat.mul_le_mul_right _ Nat.lt_log2_self.le
          _ = 2 ^ (n.log2 + 1 + 52) := (Nat.pow_add _ _ _).symm
          _ ≤ 2 ^ (m.log2 + j) := Nat.pow_le_pow_right (by decide) hbits
          _ ≤ m * 2 ^ j := hlow
      have hwhole : 2 ^ 52 ≤ m * 2 ^ j / n := by
        rw [Nat.le_div_iff_mul_le hn, mul_comm]
        exact hhigh
      have hne : m * 2 ^ j / n ≠ 0 := by
        have hpos : 0 < 2 ^ 52 := by decide
        omega
      have hlog : 52 ≤ (m * 2 ^ j / n).log2 := (Nat.le_log2 hne).2 hwhole
      omega

theorem Denotes.isNearest_div {u v : UnpackedFloat} {p q : ℚ} (hu : Denotes u p)
    (hv : Denotes v q) (hq : q ≠ 0) :
    IsNearest (.ofModel (.pack (u.div Format.binary64 v))) (p / q) := by
  cases hv with
  | zero t => exact absurd rfl hq
  | finite t n d hn hlow' hhigh' hc' hnormal' =>
    cases hu with
    | zero s =>
      rw [zero_div]
      exact isNearest_zero _
    | finite s m e hm hlow hhigh hc hnormal =>
      obtain ⟨l, k, acc, v, hcore, hext, hquotient, hk⟩ := divCore_spec e d hm hn
      have hrounded := isNearest_roundWithAccuracy (s / t) hext hk
      have hvalue : signValue (s / t) * (v * 2 ^ k) =
          signValue s * (m * 2 ^ e) / (signValue t * (n * 2 ^ d)) := by
        rw [signValue_div, hquotient, div_mul_div_comm]
      rw [hvalue] at hrounded
      rw [UnpackedFloat.div]
      simp only [hcore]
      exact hrounded

/-! ## Doubles -/

section

variable {x y : Float} (hx : x.isFinite = true) (hy : y.isFinite = true)

include hx hy

theorem isNearest_add : IsNearest (x + y) (Exact.ofDouble x + Exact.ofDouble y) :=
  (denotes_unpack hx).isNearest_add (denotes_unpack hy)

theorem isNearest_sub : IsNearest (x - y) (Exact.ofDouble x - Exact.ofDouble y) :=
  (denotes_unpack hx).isNearest_sub (denotes_unpack hy)

theorem isNearest_mul : IsNearest (x * y) (Exact.ofDouble x * Exact.ofDouble y) :=
  (denotes_unpack hx).isNearest_mul (denotes_unpack hy)

theorem isNearest_div (h : (Exact.ofDouble y : ℚ) ≠ 0) :
    IsNearest (x / y) (Exact.ofDouble x / Exact.ofDouble y) :=
  (denotes_unpack hx).isNearest_div (denotes_unpack hy) h

end

/-! ## Order -/

/-- Finite doubles are the numbers whose rank is below that of infinity. -/
theorem isFinite_iff {x : Float} :
    x.isFinite = true ↔ x.isNaN = false ∧ |rank x| < 2047 * 2 ^ 52 := by
  have hshape := shape_unpack x
  have hrank (n : ℕ) : |(sign x).apply n| = n := by
    cases sign x with
    | negative => exact (abs_neg (n : ℤ)).trans (Nat.abs_cast n)
    | positive => exact Nat.abs_cast n
  change x.toModel.unpack.isFinite = true ↔ x.toModel.unpack.isNaN = false ∧ _
  rw [rank, hrank]
  generalize x.toBits.toNat % 2 ^ 63 = n at hshape ⊢
  generalize x.toModel.unpack = u at hshape ⊢
  cases hshape with
  | infinity h =>
    simp only [UnpackedFloat.isFinite, UnpackedFloat.isNaN, true_and, Bool.false_eq_true, false_iff]
    omega
  | notANumber h => simp [UnpackedFloat.isFinite, UnpackedFloat.isNaN]
  | zero h =>
    simp only [UnpackedFloat.isFinite, UnpackedFloat.isNaN, true_and, true_iff]
    omega
  | finite m k e hm h he hk hc hn =>
    simp only [UnpackedFloat.isFinite, UnpackedFloat.isNaN, true_and, true_iff]
    omega

theorem IsNearest.le {x y : Float} {p q : ℚ} (hx : IsNearest x p) (hy : IsNearest y q)
    (h : p ≤ q) : x ≤ y := by
  refine le_iff_rank_le.2 ⟨hx.isNaN, hy.isNaN, ?_⟩
  rw [hx.rank, hy.rank]
  exact nearestRank_mono h

/-- What is nearest to a number within the range of doubles is finite. -/
theorem IsNearest.isFinite {x y : Float} {q : ℚ} (hx : IsNearest x q) (hy : y.isFinite = true)
    (h : |q| ≤ |Exact.ofDouble y|) : x.isFinite = true := by
  refine isFinite_iff.2 ⟨hx.isNaN, ?_⟩
  rw [hx.rank, ← nearestRank_abs]
  refine (nearestRank_mono h).trans_lt ?_
  rw [nearestRank_abs, ← (isNearest_ofDouble hy).rank]
  exact (isFinite_iff.1 hy).2

theorem IsNearest.isFinite_of_lt {x : Float} {q : ℚ} (hx : IsNearest x q)
    (h : |q| * unitsOfOne < (2 ^ 53 - 1 / 2) * 2 ^ 2045) : x.isFinite = true := by
  refine isFinite_iff.2 ⟨hx.isNaN, ?_⟩
  rw [hx.rank, ← nearestRank_abs, nearestRank_of_nonneg (abs_nonneg q)]
  exact_mod_cast magnitudeRank_lt (mul_nonneg (abs_nonneg q) unitsOfOne_pos.le) h

theorem ofDouble_of_rank_eq_zero {x : Float} (hx : x.isFinite = true) (h : rank x = 0) :
    (Exact.ofDouble x : ℚ) = 0 := by
  obtain ⟨m, k, hm⟩ := exists_isWritten hx
  have hzero : k * 2 ^ 52 + m = 0 := by
    rw [hm.rank_eq] at h
    cases hs : sign x <;> rw [hs] at h <;> simp only [Sign.apply] at h <;> omega
  obtain rfl : m = 0 := by omega
  rw [hm.ofDouble_eq hx, Nat.cast_zero, zero_mul, mul_zero]

section

variable {x y : Float} (hx : x.isFinite = true) (hy : y.isFinite = true)

include hx hy

theorem ofDouble_eq_of_rank_eq (h : rank x = rank y) :
    (Exact.ofDouble x : ℚ) = Exact.ofDouble y := by
  by_cases hzero : rank x = 0
  · rw [ofDouble_of_rank_eq_zero hx hzero, ofDouble_of_rank_eq_zero hy (h ▸ hzero)]
  · rw [toBits_inj (toBits_eq_of_rank_eq h hzero)]

theorem ofDouble_lt_ofDouble (h : x < y) : (Exact.ofDouble x : ℚ) < Exact.ofDouble y := by
  refine lt_of_not_ge fun hge => ?_
  have hle := (isNearest_ofDouble hy).le (isNearest_ofDouble hx) hge
  exact not_lt_of_le hle h

theorem ofDouble_le_ofDouble (h : x ≤ y) : (Exact.ofDouble x : ℚ) ≤ Exact.ofDouble y := by
  by_cases hlt : x < y
  · exact (ofDouble_lt_ofDouble hx hy hlt).le
  · rw [le_iff_rank_le] at h
    rw [lt_iff_rank_lt] at hlt
    have heq : rank x = rank y := by
      refine le_antisymm h.2.2 (not_lt.1 fun hrank => hlt ⟨h.1, h.2.1, hrank⟩)
    exact (ofDouble_eq_of_rank_eq hx hy heq).le

end

end StyledMap.Double
