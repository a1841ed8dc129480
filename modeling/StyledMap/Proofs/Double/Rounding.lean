import StyledMap.Proofs.Double.Order

/-! # Products and quotients of doubles

* `isRegular u`: the unpacked double `u` is finite and not zero.
* `isNaN_mul` and `isNaN_div`: a number times or by a regular double is a number.
* `roundWithAccuracy_eq_finite`: a mantissa of at least 53 bits is rounded to one of 53 bits.
* `isRegular_ofScientific`: powers of ten in the range of doubles are regular.
-/

set_option autoImplicit false

namespace StyledMap.Double

open Float.Model Float.Model.UnpackedFloat

/-- Whether an unpacked double is finite and not zero. -/
def isRegular : UnpackedFloat → Bool
  | .finite .. => true
  | _ => false

theorem isRegular_iff {u : UnpackedFloat} :
    isRegular u = true ↔ ∃ s m e h, u = .finite s m e h := by
  cases u with
  | finite s m e h => exact iff_of_true rfl ⟨s, m, e, h, rfl⟩
  | _ => simp [isRegular]

/-! ## Numbers that stay numbers -/

theorem isNaN_roundWithAccuracy (s : Sign) (m : Nat) (e : Int) (acc : Accuracy) :
    (roundWithAccuracy Format.binary64 s m e acc).isNaN = false := by
  unfold roundWithAccuracy
  simp only
  split <;> rfl

theorem isNaN_mul {x y : Float} (hx : x.isNaN = false) (hy : isRegular y.toModel.unpack = true) :
    (x * y).isNaN = false := by
  change x.toModel.unpack.isNaN = false at hx
  refine isNaN_unpack_pack (u := x.toModel.unpack.mul Format.binary64 y.toModel.unpack) ?_
  obtain ⟨t, n, d, hn, hy⟩ := isRegular_iff.1 hy
  rw [hy]
  cases hu : x.toModel.unpack with
  | notANumber => simp [hu, UnpackedFloat.isNaN] at hx
  | infinity s => rfl
  | zero s => rfl
  | finite s m e hm => exact isNaN_roundWithAccuracy _ _ _ _

theorem isNaN_div {x y : Float} (hx : x.isNaN = false) (hy : isRegular y.toModel.unpack = true) :
    (x / y).isNaN = false := by
  change x.toModel.unpack.isNaN = false at hx
  refine isNaN_unpack_pack (u := x.toModel.unpack.div Format.binary64 y.toModel.unpack) ?_
  obtain ⟨t, n, d, hn, hy⟩ := isRegular_iff.1 hy
  rw [hy]
  cases hu : x.toModel.unpack with
  | notANumber => simp [hu, UnpackedFloat.isNaN] at hx
  | infinity s => rfl
  | zero s => rfl
  | finite s m e hm => exact isNaN_roundWithAccuracy _ _ _ _

/-! ## Rounding -/

theorem targetExponent_binary64 (t : Int) :
    Format.binary64.targetExponent t = max (t - 53) (-1074) := rfl

theorem mantissa_shiftRight (em : ExtendedMantissa) (n : Nat) :
    (em >>> n).mantissa = em.mantissa / 2 ^ n := by
  induction n with
  | zero => exact (Nat.div_one _).symm
  | succ n ih =>
    change (em >>> n).mantissa / 2 = _
    rw [ih, Nat.div_div_eq_div_mul, Nat.pow_succ]

theorem mantissa_ofMantissaAndAccuracy (m : Nat) (acc : Accuracy) :
    (ExtendedMantissa.ofMantissaAndAccuracy m acc).mantissa = m := by
  rcases acc with - | (- | - | -) <;> rfl

theorem roundedMantissa_bounds (em : ExtendedMantissa) :
    em.mantissa ≤ em.roundedMantissa ∧ em.roundedMantissa ≤ em.mantissa + 1 := by
  unfold ExtendedMantissa.roundedMantissa
  rcases em.accuracy with - | (- | - | -) <;> simp only [Accuracy.roundToNearestEven] <;> omega

/-- A mantissa of `53 + k` bits is shifted by `k`. -/
theorem shiftToTargetExponent_eq {m k : Nat} {e : Int} (hm : m.log2 = 52 + k)
    (he : -1074 ≤ e + k) (acc : Accuracy) :
    (shiftToTargetExponent Format.binary64 m e acc).1.mantissa = m / 2 ^ k ∧
      (shiftToTargetExponent Format.binary64 m e acc).2 = e + k := by
  have hk : (Format.binary64.targetExponent (totalExponent m e) - e).toNat = k := by
    rw [targetExponent_binary64, totalExponent, hm]
    omega
  unfold shiftToTargetExponent shiftToExponent
  simp only [hk]
  refine ⟨?_, trivial⟩
  rw [mantissa_shiftRight, mantissa_ofMantissaAndAccuracy]

theorem div_two_pow_bounds {m k : Nat} (hm : m.log2 = 52 + k) :
    2 ^ 52 ≤ m / 2 ^ k ∧ m / 2 ^ k < 2 ^ 53 := by
  have hne : m ≠ 0 := by
    rintro rfl
    simp at hm
    omega
  have hlow : 2 ^ (52 + k) ≤ m := hm ▸ Nat.log2_self_le hne
  have hhigh : m < 2 ^ (53 + k) := by
    have h := Nat.lt_log2_self (n := m)
    rwa [hm, show 52 + k + 1 = 53 + k by omega] at h
  rw [Nat.pow_add] at hlow hhigh
  exact ⟨(Nat.le_div_iff_mul_le (Nat.two_pow_pos k)).2 hlow,
    (Nat.div_lt_iff_lt_mul (Nat.two_pow_pos k)).2 hhigh⟩

/-- A mantissa of at least 53 bits is rounded to one of 53 bits. -/
theorem roundWithAccuracy_eq_finite {m k : Nat} {e : Int} (s : Sign) (hm : m.log2 = 52 + k)
    (he : -1074 ≤ e + k) (acc : Accuracy) :
    ∃ n d h, roundWithAccuracy Format.binary64 s m e acc = .finite s n d h ∧
      n.log2 = 52 ∧ e + k ≤ d ∧ d ≤ e + k + 1 := by
  obtain ⟨hmant, hexp⟩ := shiftToTargetExponent_eq hm he acc
  obtain ⟨hlow, hhigh⟩ := div_two_pow_bounds hm
  have hr := roundedMantissa_bounds (shiftToTargetExponent Format.binary64 m e acc).1
  rw [hmant] at hr
  generalize hR : (shiftToTargetExponent Format.binary64 m e acc).1.roundedMantissa = R at hr
  -- Rounding up can carry into a further bit, which the second shift drops.
  obtain ⟨j, hj, hR2⟩ : ∃ j ≤ 1, R.log2 = 52 + j := by
    rcases Nat.lt_or_ge R (2 ^ 53) with h | h
    · exact ⟨0, by omega, (Nat.log2_eq_iff (by omega)).2 ⟨by omega, h⟩⟩
    · exact ⟨1, by omega, (Nat.log2_eq_iff (by omega)).2 ⟨h, by omega⟩⟩
  obtain ⟨hmant', hexp'⟩ := shiftToTargetExponent_eq (e := e + k) hR2 (by omega) .exact
  obtain ⟨hlow', hhigh'⟩ := div_two_pow_bounds hR2
  refine ⟨R / 2 ^ j, e + k + j, by omega, ?_, ?_, by omega, by omega⟩
  · unfold roundWithAccuracy
    simp only [hR, hexp, hmant', hexp']
    rw [dif_neg (by omega)]
  · exact (Nat.log2_eq_iff (by omega)).2 ⟨hlow', hhigh'⟩

theorem isRegular_unpack_pack {s : Sign} {m : Nat} {e : Int} {h : 0 < m} (hm : m.log2 = 52)
    (hlow : -1074 ≤ e) (hhigh : e ≤ 971) :
    isRegular (UnpackedFloat.unpack Format.binary64
      (UnpackedFloat.pack Format.binary64 (.finite s m e h))) = true := by
  have hb : (e + Format.binary64.exponentBias + Format.binary64.mantissaBitsWithoutImplicit).toNat =
      (e + 1075).toNat := by
    change (e + (1023 : Nat) + (52 : Nat)).toNat = _
    omega
  have hlt : ¬ 2 ^ Format.binary64.exponentBits ≤ (e + 1075).toNat + 1 := by
    change ¬ 2 ^ 11 ≤ _
    omega
  have hnormal : m.log2 + 1 = Format.binary64.mantissaBits := by
    rw [hm]
    rfl
  have hpack : UnpackedFloat.pack Format.binary64 (.finite s m e h) =
      packComponents Format.binary64 s (BitVec.ofNat _ (e + 1075).toNat) (BitVec.ofNat _ m) := by
    simp only [UnpackedFloat.pack, hb]
    rw [if_neg hlt, if_pos hnormal]
  have hfield : (BitVec.ofNat Format.binary64.exponentBits (e + 1075).toNat).toNat =
      (e + 1075).toNat := by
    rw [BitVec.toNat_ofNat]
    exact Nat.mod_eq_of_lt (by omega)
  rw [hpack]
  simp only [UnpackedFloat.unpack, unpackExponent_packComponents, ← BitVec.toNat_inj, hfield]
  rw [if_neg, if_neg]
  · rfl
  · change ¬ (e + 1075).toNat = 0
    omega
  · change ¬ (e + 1075).toNat = 2047
    omega

/-! ## Powers of ten -/

theorem pow_ten_le {n k : Nat} (h : n ≤ 1 + 3 * k) : 10 ^ n ≤ 10 * 1000 ^ k :=
  calc 10 ^ n ≤ 10 ^ (1 + 3 * k) := Nat.pow_le_pow_right (by decide) h
    _ = 10 * 1000 ^ k := by rw [Nat.pow_add, Nat.pow_mul, Nat.pow_one]

theorem log2_pow_ten_lt {n : Nat} (h : n ≤ 307) : (10 ^ n).log2 < 10 * 102 := by
  have hne : 10 ^ n ≠ 0 := Nat.ne_of_gt (Nat.pow_pos (by decide))
  refine (Nat.log2_lt hne).2 ?_
  calc 10 ^ n ≤ 10 * 1000 ^ 102 := pow_ten_le h
    _ < (2 ^ 10) ^ 102 := by decide
    _ = 2 ^ (10 * 102) := (Nat.pow_mul 2 10 102).symm

theorem log2_mul_two_pow {m : Nat} (hm : m ≠ 0) (k : Nat) :
    (m * 2 ^ k).log2 = m.log2 + k := by
  have hlow := Nat.log2_self_le hm
  have hhigh := Nat.lt_log2_self (n := m)
  have hpos := Nat.two_pow_pos k
  rw [Nat.log2_eq_iff (Nat.mul_ne_zero hm (Nat.ne_of_gt hpos)), Nat.add_right_comm, Nat.pow_add,
    Nat.pow_add _ _ k]
  exact ⟨Nat.mul_le_mul_right _ hlow, Nat.mul_lt_mul_of_pos_right hhigh hpos⟩

theorem isRegular_ofScientific {n : Nat} (h : n ≤ 307) :
    isRegular (Float.Model.ofScientific 1 n).unpack = true := by
  have hlog := log2_pow_ten_lt h
  have hmant : (1 <<< 53 * 10 ^ n).log2 = 52 + ((10 ^ n).log2 + 1) := by
    rw [Nat.mul_comm, Nat.one_shiftLeft,
      log2_mul_two_pow (Nat.ne_of_gt (Nat.pow_pos (by decide)))]
    omega
  obtain ⟨m, e, hm, hround, hmlog, hlow, hhigh⟩ :=
    roundWithAccuracy_eq_finite (e := -53) .positive hmant (by omega) .exact
  have hpack : UnpackedFloat.ofScientific Format.binary64 1 n = .finite .positive m e hm := by
    rw [← hround, UnpackedFloat.ofScientific, dif_neg (by decide), if_neg, if_neg, if_pos]
    · rfl
    · omega
    · change ¬ (n : Int) < -(2 ^ 11 + _)
      omega
    · change ¬ (n : Int) > 2 ^ 11
      omega
  change isRegular (UnpackedFloat.unpack Format.binary64 (UnpackedFloat.pack Format.binary64 _)) = true
  rw [hpack]
  exact isRegular_unpack_pack hmlog (by omega) (by omega)

end StyledMap.Double
