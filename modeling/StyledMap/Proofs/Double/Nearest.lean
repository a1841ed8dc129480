import Mathlib.Data.Int.Log
import Mathlib.Data.Rat.Floor
import Mathlib.Tactic.Linarith
import StyledMap.Double.Parts

/-! # The double nearest to a rational number

The doubles that are not negative are counted by their ranks: rank zero is zero, rank one the least
positive double, and from `2047 * 2 ^ 52` on there is nothing finite. So to round is to find the rank
of the nearest double. In units of the least positive double the doubles below `2 ^ 53` are the natural
numbers, and each further doubling doubles their distance.

* `nearestEven`: the nearest natural number, a half going to the even one.
* `place`: the binary logarithm of the distance of the doubles around a magnitude.
* `magnitudeRank` and `nearestRank`: the rank of the nearest double.
* `nearestRank_mono` and `magnitudeRank_mul_two_pow`: rounding keeps the order, and it keeps what is
  a double already.
-/

set_option autoImplicit false

namespace StyledMap.Double

/-! ## The nearest natural number -/

/-- The natural number nearest to `low + part`, for a part in `[0, 1)`. -/
def roundUp (low : ℕ) (part : ℚ) : ℕ :=
  if part < 1 / 2 then low else if part = 1 / 2 then low + low % 2 else low + 1

/-- The nearest natural number; a half goes to the even one. -/
def nearestEven (v : ℚ) : ℕ :=
  roundUp ⌊v⌋₊ (v - ⌊v⌋₊)

theorem roundUp_bounds (low : ℕ) (part : ℚ) :
    low ≤ roundUp low part ∧ roundUp low part ≤ low + 1 := by
  unfold roundUp
  split_ifs <;> omega

theorem roundUp_mono (low : ℕ) {s t : ℚ} (h : s ≤ t) : roundUp low s ≤ roundUp low t := by
  rcases lt_trichotomy t (1 / 2) with ht | rfl | ht
  · have hs : s < 1 / 2 := h.trans_lt ht
    rw [roundUp, roundUp, if_pos hs, if_pos ht]
  · rcases h.lt_or_eq with hs | rfl
    · rw [roundUp, if_pos hs]
      exact (roundUp_bounds low _).1
    · rfl
  · have hup : roundUp low t = low + 1 := by
      rw [roundUp, if_neg (not_lt.2 ht.le), if_neg ht.ne']
    rw [hup]
    exact (roundUp_bounds low s).2

theorem nearestEven_natCast (n : ℕ) : nearestEven n = n := by
  have hfloor : ⌊(n : ℚ)⌋₊ = n := Nat.floor_natCast n
  rw [nearestEven, hfloor, sub_self]
  exact if_pos (by norm_num)

theorem nearestEven_mono {v w : ℚ} (h : v ≤ w) : nearestEven v ≤ nearestEven w := by
  have hfloor : ⌊v⌋₊ ≤ ⌊w⌋₊ := Nat.floor_mono h
  rcases Nat.lt_or_eq_of_le hfloor with hlt | heq
  · have hv := (roundUp_bounds ⌊v⌋₊ (v - ⌊v⌋₊)).2
    have hw := (roundUp_bounds ⌊w⌋₊ (w - ⌊w⌋₊)).1
    exact hv.trans (Nat.le_trans hlt hw)
  · -- Above one whole number the distance from it decides.
    rw [nearestEven, nearestEven, heq]
    exact roundUp_mono _ (by linarith)

theorem nearestEven_le_of_le {v : ℚ} {n : ℕ} (h : v ≤ n) : nearestEven v ≤ n :=
  (nearestEven_mono h).trans_eq (nearestEven_natCast n)

theorem le_nearestEven_of_le {v : ℚ} {n : ℕ} (h : n ≤ v) : n ≤ nearestEven v :=
  (nearestEven_natCast n).symm.trans_le (nearestEven_mono h)

theorem nearestEven_lt_of_lt {v : ℚ} {n : ℕ} (hn : 0 < n) (h : v < n - 1 / 2) :
    nearestEven v < n := by
  have hfloor : ⌊v⌋₊ < n := (Nat.floor_lt' hn.ne').2 (by linarith)
  rcases Nat.lt_or_eq_of_le (Nat.succ_le_of_lt hfloor) with hlt | heq
  · exact (roundUp_bounds _ _).2.trans_lt hlt
  · -- Just below the number there is less than a half to go down.
    have hcast : ((⌊v⌋₊ + 1 : ℕ) : ℚ) = n := by rw [← heq]
    push_cast at hcast
    rw [nearestEven, roundUp, if_pos (by linarith)]
    exact hfloor

/-! ## Places -/

/-- The binary logarithm of the distance of the doubles around a magnitude, in units of the least
positive double. -/
def place (v : ℚ) : ℕ :=
  (Int.log 2 v - 52).toNat

theorem lt_two_pow_place {v : ℚ} (hv : 0 < v) : v < 2 ^ (place v + 53) := by
  have hlog : Int.log 2 v < ((place v + 53 : ℕ) : ℤ) := by
    unfold place
    omega
  have hlt := (Int.lt_zpow_iff_log_lt (b := 2) (by decide) hv).2 hlog
  rw [zpow_natCast] at hlt
  exact_mod_cast hlt

theorem two_pow_place_le {v : ℚ} (hv : 0 < v) (h : 0 < place v) : 2 ^ (place v + 52) ≤ v := by
  have hlog : ((place v + 52 : ℕ) : ℤ) ≤ Int.log 2 v := by
    unfold place at h ⊢
    omega
  have hle := (Int.zpow_le_iff_le_log (b := 2) (by decide) hv).2 hlog
  rw [zpow_natCast] at hle
  exact_mod_cast hle

theorem place_mono {v w : ℚ} (hv : 0 < v) (h : v ≤ w) : place v ≤ place w := by
  have hlog : Int.log 2 v ≤ Int.log 2 w := Int.log_mono_right hv h
  unfold place
  omega

theorem place_eq {v : ℚ} (hv : 0 < v) {k : ℕ} (hhigh : v < 2 ^ (k + 53))
    (hlow : k = 0 ∨ 2 ^ (k + 52) ≤ v) : place v = k := by
  have hlt : Int.log 2 v < ((k + 53 : ℕ) : ℤ) := by
    refine (Int.lt_zpow_iff_log_lt (b := 2) (by decide) hv).1 ?_
    rw [zpow_natCast]
    exact_mod_cast hhigh
  obtain rfl | hlow := hlow
  · unfold place
    omega
  · have hle : ((k + 52 : ℕ) : ℤ) ≤ Int.log 2 v := by
      refine (Int.zpow_le_iff_le_log (b := 2) (by decide) hv).1 ?_
      rw [zpow_natCast]
      exact_mod_cast hlow
    unfold place
    omega

/-! ## Ranks -/

/-- The rank of the double nearest to a magnitude, in units of the least positive double. -/
def magnitudeRank (v : ℚ) : ℕ :=
  min (place v * 2 ^ 52 + nearestEven (v / 2 ^ place v)) (2047 * 2 ^ 52)

theorem magnitudeRank_zero : magnitudeRank 0 = 0 := by
  have hplace : place 0 = 0 := by simp [place]
  have hnearest : nearestEven 0 = 0 := nearestEven_natCast 0
  rw [magnitudeRank, hplace, zero_div, hnearest]
  rfl

theorem nearestEven_place_le {v : ℚ} (hv : 0 ≤ v) : nearestEven (v / 2 ^ place v) ≤ 2 ^ 53 := by
  refine nearestEven_le_of_le ?_
  rcases hv.eq_or_lt with rfl | hpos
  · rw [zero_div]
    positivity
  · have hlt := lt_two_pow_place hpos
    rw [pow_add, mul_comm] at hlt
    exact_mod_cast ((div_lt_iff₀ (by positivity)).2 hlt).le

theorem le_nearestEven_place {v : ℚ} (hv : 0 ≤ v) (h : 0 < place v) :
    2 ^ 52 ≤ nearestEven (v / 2 ^ place v) := by
  refine le_nearestEven_of_le ?_
  rcases hv.eq_or_lt with rfl | hpos
  · simp [place] at h
  · have hle := two_pow_place_le hpos h
    rw [pow_add, mul_comm] at hle
    exact_mod_cast (le_div_iff₀ (by positivity)).2 hle

theorem magnitudeRank_mono {v w : ℚ} (hv : 0 ≤ v) (h : v ≤ w) :
    magnitudeRank v ≤ magnitudeRank w := by
  rcases hv.eq_or_lt with rfl | hpos
  · rw [magnitudeRank_zero]
    exact Nat.zero_le _
  · refine min_le_min ?_ le_rfl
    rcases Nat.lt_or_eq_of_le (place_mono hpos h) with hlt | heq
    · -- The lower one may round up to a power of two, which the other is not below.
      have hlow := nearestEven_place_le hv
      have hhigh := le_nearestEven_place (hv.trans h) (Nat.zero_lt_of_lt hlt)
      omega
    · rw [heq]
      refine Nat.add_le_add_left (nearestEven_mono ?_) _
      gcongr

/-- What is a double already is not rounded. -/
theorem magnitudeRank_mul_two_pow {m k : ℕ} (hm : 0 < m) (hc : m < 2 ^ 53)
    (hn : 2 ^ 52 ≤ m ∨ k = 0) (hk : k ≤ 2045) :
    magnitudeRank (m * 2 ^ k) = k * 2 ^ 52 + m := by
  have hpos : (0 : ℚ) < m * 2 ^ k := by positivity
  have hhigh : (m : ℚ) * 2 ^ k < 2 ^ (k + 53) := by
    have hc' : (m : ℚ) < 2 ^ 53 := by exact_mod_cast hc
    rw [pow_add, mul_comm]
    gcongr
  have hlow : k = 0 ∨ (2 : ℚ) ^ (k + 52) ≤ m * 2 ^ k := by
    refine hn.symm.imp_right fun hm' => ?_
    have hm'' : (2 : ℚ) ^ 52 ≤ m := by exact_mod_cast hm'
    rw [pow_add, mul_comm]
    gcongr
  rw [magnitudeRank, place_eq hpos hhigh hlow, mul_div_cancel_right₀ _ (by positivity),
    nearestEven_natCast]
  omega

/-- Half a place beyond the greatest finite magnitude rounding goes to infinity, and not before. -/
theorem magnitudeRank_lt {v : ℚ} (hv : 0 ≤ v) (h : v < (2 ^ 53 - 1 / 2) * 2 ^ 2045) :
    magnitudeRank v < 2047 * 2 ^ 52 := by
  have hnearest := nearestEven_place_le hv
  rcases hv.eq_or_lt with rfl | hpos
  · rw [magnitudeRank_zero]
    decide
  · have hplace : place v ≤ 2045 := by
      by_contra hgt
      have hlow := two_pow_place_le hpos (by omega)
      have hpower : (2 : ℚ) ^ (53 + 2045) ≤ 2 ^ (place v + 52) :=
        pow_le_pow_right₀ one_le_two (by omega)
      rw [pow_add] at hpower
      have hless : (2 ^ 53 - 1 / 2 : ℚ) * 2 ^ 2045 ≤ 2 ^ 53 * 2 ^ 2045 :=
        mul_le_mul_of_nonneg_right (by norm_num) (by positivity)
      exact absurd (hpower.trans hlow) (not_le.2 (h.trans_le hless))
    refine (Nat.min_le_left _ _).trans_lt ?_
    rcases Nat.lt_or_eq_of_le hplace with hlt | heq
    · omega
    · have hquotient : v / 2 ^ place v < 2 ^ 53 - 1 / 2 := by
        rw [heq, div_lt_iff₀ (by positivity)]
        exact h
      have hlast : nearestEven (v / 2 ^ place v) < 2 ^ 53 :=
        nearestEven_lt_of_lt (by positivity) (by exact_mod_cast hquotient)
      omega

/-! ## Signs -/

/-- How many of the least positive doubles make one. -/
def unitsOfOne : ℚ := 2 ^ 1074

theorem unitsOfOne_pos : 0 < unitsOfOne :=
  pow_pos two_pos 1074

/-- The rank of the double nearest to a number. -/
def nearestRank (q : ℚ) : ℤ :=
  if 0 ≤ q then magnitudeRank (q * unitsOfOne) else -magnitudeRank (-q * unitsOfOne)

theorem nearestRank_of_nonneg {q : ℚ} (h : 0 ≤ q) :
    nearestRank q = magnitudeRank (q * unitsOfOne) :=
  if_pos h

theorem nearestRank_neg (q : ℚ) : nearestRank (-q) = -nearestRank q := by
  rcases lt_trichotomy q 0 with h | rfl | h
  · have hneg : 0 ≤ -q := by linarith
    rw [nearestRank_of_nonneg hneg, nearestRank, if_neg (not_le.2 h), neg_neg]
  · simp [nearestRank, magnitudeRank_zero]
  · have hneg : ¬ 0 ≤ -q := by linarith
    rw [nearestRank_of_nonneg h.le, nearestRank, if_neg hneg, neg_neg]

theorem nearestRank_mono {p q : ℚ} (h : p ≤ q) : nearestRank p ≤ nearestRank q := by
  have hnonneg {p q : ℚ} (hp : 0 ≤ p) (h : p ≤ q) : nearestRank p ≤ nearestRank q := by
    rw [nearestRank_of_nonneg hp, nearestRank_of_nonneg (hp.trans h)]
    have hscaled : p * unitsOfOne ≤ q * unitsOfOne :=
      mul_le_mul_of_nonneg_right h unitsOfOne_pos.le
    exact_mod_cast magnitudeRank_mono (mul_nonneg hp unitsOfOne_pos.le) hscaled
  have hzero : nearestRank 0 = 0 := by simp [nearestRank, magnitudeRank_zero]
  rcases le_total 0 p with hp | hp
  · exact hnonneg hp h
  · rcases le_total 0 q with hq | hq
    · have hlow := hnonneg le_rfl (neg_nonneg.2 hp)
      have hhigh := hnonneg le_rfl hq
      rw [nearestRank_neg] at hlow
      omega
    · have hneg := hnonneg (neg_nonneg.2 hq) (neg_le_neg h)
      rw [nearestRank_neg, nearestRank_neg] at hneg
      omega

theorem nearestRank_abs (q : ℚ) : nearestRank |q| = |nearestRank q| := by
  have hzero : nearestRank 0 = 0 := by simp [nearestRank, magnitudeRank_zero]
  rcases le_total 0 q with h | h
  · have hnonneg := nearestRank_mono h
    rw [hzero] at hnonneg
    rw [abs_of_nonneg h, abs_of_nonneg hnonneg]
  · have hnonpos := nearestRank_mono h
    rw [hzero] at hnonpos
    rw [abs_of_nonpos h, abs_of_nonpos hnonpos, nearestRank_neg]

end StyledMap.Double
