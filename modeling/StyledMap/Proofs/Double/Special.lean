import StyledMap.Proofs.Double.Arithmetic

/-! # Infinite doubles and those that are no number

* `isInf_iff`: a double is finite, infinite or no number.
* `isNaN_add_of`, `isNaN_sub_of` and `isNaN_mul_of`: what is no number stays so.
* `sub_of_isInf` and `sub_le_sub_of_le`: differences with an infinite double, and their order.
* `sub_pos_of_lt` and `sub_beq_zero_iff`: only a double and itself have the difference zero.
* `IsPart`: doubles in `[0, 1]`.
* `IsOnWay.isPart_div` and `IsOnWay.isNaN_div`: a quotient by something farther from zero, on the same
  side of it, is in `[0, 1]`, or else it is one of the two that are no numbers.
* `IsBounded`: bounds on the number that a double denotes, and how operations change them.
-/

set_option autoImplicit false

namespace StyledMap.Double

open Float.Model Float.Model.UnpackedFloat

/-! ## Three kinds of doubles -/

section

variable {x y : Float}

theorem isNaN_iff : x.isNaN = true ↔ x.toModel.unpack = .notANumber := by
  change x.toModel.unpack.isNaN = true ↔ _
  cases x.toModel.unpack <;> simp [UnpackedFloat.isNaN]

theorem isInf_iff_unpack : x.isInf = true ↔ ∃ s, x.toModel.unpack = .infinity s := by
  change x.toModel.unpack.isInf = true ↔ _
  cases x.toModel.unpack <;> simp [UnpackedFloat.isInf]

/-- A double is finite, infinite or no number. -/
theorem isInf_iff : x.isInf = true ↔ x.isNaN = false ∧ x.isFinite = false := by
  change x.toModel.unpack.isInf = true ↔
    x.toModel.unpack.isNaN = false ∧ x.toModel.unpack.isFinite = false
  cases x.toModel.unpack <;>
    simp [UnpackedFloat.isInf, UnpackedFloat.isNaN, UnpackedFloat.isFinite]

theorem isNaN_of_isFinite (h : x.isFinite = true) : x.isNaN = false :=
  (isFinite_iff.1 h).1

theorem isFinite_of_not_isInf (hn : x.isNaN = false) (h : x.isInf = false) :
    x.isFinite = true := by
  by_contra hnot
  rw [isInf_iff.2 ⟨hn, Bool.eq_false_of_not_eq_true hnot⟩] at h
  exact Bool.noConfusion h

protected theorem le_of_lt (h : x < y) : x ≤ y := by
  rw [lt_iff_rank_lt] at h
  exact le_iff_rank_le.2 ⟨h.1, h.2.1, h.2.2.le⟩

protected theorem le_trans {z : Float} (hxy : x ≤ y) (hyz : y ≤ z) : x ≤ z := by
  rw [le_iff_rank_le] at hxy hyz ⊢
  exact ⟨hxy.1, hyz.2.1, hxy.2.2.trans hyz.2.2⟩

theorem abs_rank_of_isInf (h : x.isInf = true) : |rank x| = 2047 * 2 ^ 52 := by
  obtain ⟨s, hs⟩ := isInf_iff_unpack.1 h
  have hshape := shape_unpack x
  rw [hs] at hshape
  cases hshape with
  | infinity hbits =>
    rw [rank, hbits]
    cases sign x <;> rfl

theorem abs_rank_le (h : x.isNaN = false) : |rank x| ≤ 2047 * 2 ^ 52 := by
  by_cases hfinite : x.isFinite = true
  · exact (isFinite_iff.1 hfinite).2.le
  · exact (abs_rank_of_isInf (isInf_iff.2 ⟨h, Bool.eq_false_of_not_eq_true hfinite⟩)).le

theorem isInf_of_abs_rank_le (hx : x.isInf = true) (hy : y.isNaN = false)
    (h : |rank x| ≤ |rank y|) : y.isInf = true := by
  refine isInf_iff.2 ⟨hy, Bool.eq_false_of_not_eq_true fun hfinite => ?_⟩
  have hlt := (isFinite_iff.1 hfinite).2
  rw [abs_rank_of_isInf hx] at h
  omega

theorem isFinite_of_le_of_le {z : Float} (hx : x.isFinite = true) (hz : z.isFinite = true)
    (hxy : x ≤ y) (hyz : y ≤ z) : y.isFinite = true := by
  rw [le_iff_rank_le] at hxy hyz
  have hlow := (abs_lt.1 (isFinite_iff.1 hx).2).1
  have hhigh := (abs_lt.1 (isFinite_iff.1 hz).2).2
  exact isFinite_iff.2 ⟨hyz.1, abs_lt.2 ⟨by omega, by omega⟩⟩

/-! ## What is no number -/

theorem isNaN_ofModel_pack {u : UnpackedFloat} (h : u = .notANumber) :
    (Float.ofModel (.pack u)).isNaN = true := by
  rw [h]
  decide

/-- An operation that gives nothing where one operand is nothing. -/
theorem isNaN_of_absorbs (op : UnpackedFloat → UnpackedFloat → UnpackedFloat)
    (hleft : ∀ u, op .notANumber u = .notANumber) (hright : ∀ u, op u .notANumber = .notANumber)
    (h : x.isNaN = true ∨ y.isNaN = true) :
    (Float.ofModel (.pack (op x.toModel.unpack y.toModel.unpack))).isNaN = true := by
  refine isNaN_ofModel_pack ?_
  rw [isNaN_iff, isNaN_iff] at h
  obtain h | h := h
  · rw [h]
    exact hleft _
  · rw [h]
    exact hright _

theorem isNaN_add_of (h : x.isNaN = true ∨ y.isNaN = true) : (x + y).isNaN = true := by
  refine isNaN_of_absorbs (UnpackedFloat.add Format.binary64) ?_ ?_ h
  all_goals
    intro u
    cases u <;> rfl

theorem isNaN_sub_of (h : x.isNaN = true ∨ y.isNaN = true) : (x - y).isNaN = true := by
  refine isNaN_of_absorbs (UnpackedFloat.sub Format.binary64) ?_ ?_ h
  all_goals
    intro u
    cases u <;> rfl

theorem isNaN_mul_of (h : x.isNaN = true ∨ y.isNaN = true) : (x * y).isNaN = true := by
  refine isNaN_of_absorbs (UnpackedFloat.mul Format.binary64) ?_ ?_ h
  all_goals
    intro u
    cases u <;> rfl

theorem isNaN_div_of_isInf (hx : x.isInf = true) (hy : y.isInf = true) : (x / y).isNaN = true := by
  obtain ⟨s, hs⟩ := isInf_iff_unpack.1 hx
  obtain ⟨t, ht⟩ := isInf_iff_unpack.1 hy
  refine isNaN_ofModel_pack (u := x.toModel.unpack.div Format.binary64 y.toModel.unpack) ?_
  rw [hs, ht]
  rfl

theorem exists_unpack_zero (h : (x == 0) = true) : ∃ s, x.toModel.unpack = .zero s := by
  obtain ⟨hrank, hnumber⟩ := beq_zero_iff.1 h
  have hfinite : x.isFinite = true := isFinite_iff.2 ⟨hnumber, by rw [hrank]; decide⟩
  obtain ⟨m, k, hm⟩ := exists_isWritten hfinite
  obtain ⟨-, hu⟩ | ⟨hpos, -⟩ := hm.unpack
  · exact ⟨_, hu⟩
  · rw [hm.rank_eq] at hrank
    cases hs : sign x <;> rw [hs] at hrank <;> simp only [Sign.apply] at hrank <;> omega

theorem isNaN_div_of_zero (hx : (x == 0) = true) (hy : (y == 0) = true) :
    (x / y).isNaN = true := by
  obtain ⟨s, hs⟩ := exists_unpack_zero hx
  obtain ⟨t, ht⟩ := exists_unpack_zero hy
  refine isNaN_ofModel_pack (u := x.toModel.unpack.div Format.binary64 y.toModel.unpack) ?_
  rw [hs, ht]
  rfl

/-! ## Differences -/

/-- An infinite double stays as it is. -/
theorem sub_of_isInf (hx : x.isInf = true) (hy : y.isFinite = true) :
    (x - y).isNaN = false ∧ rank (x - y) = rank x := by
  obtain ⟨s, hs⟩ := isInf_iff_unpack.1 hx
  have hsub : x.toModel.unpack.sub Format.binary64 y.toModel.unpack = .infinity s := by
    rw [hs]
    obtain ⟨m, k, hm⟩ := exists_isWritten hy
    obtain ⟨-, hu⟩ | ⟨_, _, -, hu⟩ := hm.unpack <;> rw [hu] <;> rfl
  have hrank : rank x = s.apply (2047 * 2 ^ 52) := by
    have hshape := shape_unpack x
    rw [hs] at hshape
    cases hshape with
    | infinity hbits =>
      rw [rank, hbits]
      rfl
  change (Float.ofModel (.pack (x.toModel.unpack.sub Format.binary64 y.toModel.unpack))).isNaN =
    false ∧ rank (.ofModel (.pack (x.toModel.unpack.sub Format.binary64 y.toModel.unpack))) = _
  rw [hsub, hrank]
  cases s <;> decide

theorem sub_le_sub_of_le {z : Float} (hz : z.isFinite = true) (h : x ≤ y) : x - z ≤ y - z := by
  obtain ⟨hnx, hny, hle⟩ := le_iff_rank_le.1 h
  cases hx : x.isInf with
  | true =>
    obtain ⟨hsx, hrx⟩ := sub_of_isInf hx hz
    cases hy : y.isInf with
    | true =>
      obtain ⟨hsy, hry⟩ := sub_of_isInf hy hz
      exact le_iff_rank_le.2 ⟨hsx, hsy, by rwa [hrx, hry]⟩
    | false =>
      have hnearest := isNearest_sub (isFinite_of_not_isInf hny hy) hz
      have hlow := abs_le.1 (abs_rank_le hnearest.isNaN)
      have hrank := eq_or_eq_neg_of_abs_eq (abs_rank_of_isInf hx)
      have hlt := abs_lt.1 (isFinite_iff.1 (isFinite_of_not_isInf hny hy)).2
      refine le_iff_rank_le.2 ⟨hsx, hnearest.isNaN, ?_⟩
      rw [hrx]
      omega
  | false =>
    have hfx := isFinite_of_not_isInf hnx hx
    have hnearest := isNearest_sub hfx hz
    cases hy : y.isInf with
    | true =>
      obtain ⟨hsy, hry⟩ := sub_of_isInf hy hz
      have hhigh := abs_le.1 (abs_rank_le hnearest.isNaN)
      have hrank := eq_or_eq_neg_of_abs_eq (abs_rank_of_isInf hy)
      have hlt := abs_lt.1 (isFinite_iff.1 hfx).2
      refine le_iff_rank_le.2 ⟨hnearest.isNaN, hsy, ?_⟩
      rw [hry]
      omega
    | false =>
      have hfy := isFinite_of_not_isInf hny hy
      exact hnearest.le (isNearest_sub hfy hz) (sub_le_sub_right (ofDouble_le_ofDouble hfx hfy h) _)

section

variable (hx : x.isFinite = true) (hy : y.isFinite = true)

include hx hy

theorem rank_sub_comm : rank (x - y) = -rank (y - x) := by
  rw [(isNearest_sub hx hy).rank, (isNearest_sub hy hx).rank, ← nearestRank_neg, neg_sub]

theorem sub_beq_zero (h : (x == y) = true) : (x - y == 0) = true := by
  rw [beq_iff_rank_eq] at h
  have hnearest := isNearest_sub hx hy
  rw [ofDouble_eq_of_rank_eq hx hy h.2.2, sub_self] at hnearest
  refine beq_zero_iff.2 ⟨?_, hnearest.isNaN⟩
  rw [hnearest.rank]
  simp [nearestRank, magnitudeRank_zero]

end

/-- A double is a whole number of least positive doubles. -/
theorem exists_int_eq_mul_unitsOfOne (hx : x.isFinite = true) :
    ∃ z : ℤ, (Exact.ofDouble x : ℚ) * unitsOfOne = z := by
  obtain ⟨m, k, hm⟩ := exists_isWritten hx
  refine ⟨(sign x).apply (m * 2 ^ k : ℕ), ?_⟩
  rw [hm.ofDouble_eq hx, mul_assoc, mul_zpow_mul_unitsOfOne, sub_add_cancel, zpow_natCast]
  cases sign x <;> simp [signValue, Sign.apply]

/-- Different doubles have a difference, however close they are. -/
theorem sub_pos_of_lt (hx : x.isFinite = true) (hy : y.isFinite = true) (h : x < y) :
    0 < y - x := by
  have hnearest := isNearest_sub hy hx
  have hpos : (0 : ℚ) < Exact.ofDouble y - Exact.ofDouble x :=
    sub_pos.2 (ofDouble_lt_ofDouble hx hy h)
  obtain ⟨m, hm⟩ := exists_int_eq_mul_unitsOfOne hx
  obtain ⟨n, hn⟩ := exists_int_eq_mul_unitsOfOne hy
  have hone : (1 : ℚ) ≤ (Exact.ofDouble y - Exact.ofDouble x) * unitsOfOne := by
    have hscaled := mul_pos hpos unitsOfOne_pos
    rw [sub_mul, hm, hn, ← Int.cast_sub] at hscaled ⊢
    exact_mod_cast Int.cast_pos.1 hscaled
  have hleast : magnitudeRank 1 = 1 := by
    have h := magnitudeRank_mul_two_pow (m := 1) (k := 0) one_pos (by decide) (.inr rfl)
      (Nat.zero_le _)
    simpa using h
  have hrank := magnitudeRank_mono zero_le_one hone
  refine lt_iff_rank_lt.2 ⟨by decide, hnearest.isNaN, ?_⟩
  rw [rank_zero, hnearest.rank, nearestRank_of_nonneg hpos.le]
  omega

theorem sub_beq_zero_iff (hx : x.isNaN = false) (hy : y.isFinite = true) :
    (x - y == 0) = true ↔ (x == y) = true := by
  have hny := isNaN_of_isFinite hy
  cases hinf : x.isInf with
  | true =>
    -- An infinite double is neither equal to a finite one nor near it.
    have hrank := eq_or_eq_neg_of_abs_eq (abs_rank_of_isInf hinf)
    have hlt := abs_lt.1 (isFinite_iff.1 hy).2
    rw [beq_zero_iff, beq_iff_rank_eq, (sub_of_isInf hinf hy).2]
    refine iff_of_false (fun h => ?_) (fun h => ?_)
    · omega
    · obtain ⟨-, -, h⟩ := h
      omega
  | false =>
    have hfinite := isFinite_of_not_isInf hx hinf
    refine ⟨fun h => beq_iff_rank_eq.2 ⟨hx, hny, ?_⟩, sub_beq_zero hfinite hy⟩
    obtain ⟨hzero, -⟩ := beq_zero_iff.1 h
    rcases lt_trichotomy (rank x) (rank y) with hlt | heq | hlt
    · have hpos := sub_pos_of_lt hfinite hy (lt_iff_rank_lt.2 ⟨hx, hny, hlt⟩)
      rw [lt_iff_rank_lt, rank_zero, rank_sub_comm hy hfinite, hzero] at hpos
      omega
    · exact heq
    · have hpos := sub_pos_of_lt hy hfinite (lt_iff_rank_lt.2 ⟨hny, hx, hlt⟩)
      rw [lt_iff_rank_lt, rank_zero, hzero] at hpos
      omega

protected theorem sub_nonneg_of_le (hx : x.isFinite = true) (h : x ≤ y) : 0 ≤ y - x := by
  have hself := sub_beq_zero hx hx (beq_self_iff.2 (isNaN_of_isFinite hx))
  have hway := sub_le_sub_of_le hx h
  rw [le_iff_rank_le, (beq_zero_iff.1 hself).1] at hway
  exact le_iff_rank_le.2 ⟨by decide, hway.2.1, rank_zero.trans_le hway.2.2⟩

end

/-! ## Parts of one -/

/-- A double between zero and one. -/
structure IsPart (t : Float) : Prop where
  nonneg : 0 ≤ t
  le_one : t ≤ 1

theorem ofDouble_zero : (Exact.ofDouble 0 : ℚ) = 0 :=
  ofDouble_of_rank_eq_zero (by decide) rank_zero

theorem ofDouble_one : (Exact.ofDouble 1 : ℚ) = 1 := by
  rw [Exact.ofDouble_of_fraction rfl rfl (show _ = (2 ^ 52, 2 ^ 52) by decide)]
  norm_num

theorem IsPart.isFinite {t : Float} (h : IsPart t) : t.isFinite = true :=
  isFinite_of_le_of_le (by decide) (by decide) h.nonneg h.le_one

theorem IsPart.ofDouble_mem {t : Float} (h : IsPart t) :
    (0 : ℚ) ≤ Exact.ofDouble t ∧ (Exact.ofDouble t : ℚ) ≤ 1 := by
  have hlow := ofDouble_le_ofDouble (x := 0) (by decide) h.isFinite h.nonneg
  have hhigh := ofDouble_le_ofDouble (y := 1) h.isFinite (by decide) h.le_one
  rw [ofDouble_zero] at hlow
  rw [ofDouble_one] at hhigh
  exact ⟨hlow, hhigh⟩

theorem IsNearest.isPart {t : Float} {q : ℚ} (h : IsNearest t q) (h0 : 0 ≤ q) (h1 : q ≤ 1) :
    IsPart t := by
  have hzero := isNearest_ofDouble (x := 0) (by decide)
  have hone := isNearest_ofDouble (x := 1) (by decide)
  rw [ofDouble_zero] at hzero
  rw [ofDouble_one] at hone
  exact ⟨hzero.le h h0, h.le hone h1⟩

section

variable {x y : Float}

/-- A finite number of infinitely many is nothing. -/
theorem isPart_div_of_isInf (hx : x.isFinite = true) (hy : y.isInf = true) : IsPart (x / y) := by
  obtain ⟨t, ht⟩ := isInf_iff_unpack.1 hy
  obtain ⟨s, hdiv⟩ : ∃ s, x.toModel.unpack.div Format.binary64 y.toModel.unpack = .zero s := by
    rw [ht]
    obtain ⟨m, k, hm⟩ := exists_isWritten hx
    obtain ⟨-, hu⟩ | ⟨_, _, -, hu⟩ := hm.unpack <;> rw [hu] <;> exact ⟨_, rfl⟩
  have hzero : IsNearest (x / y) 0 := by
    change IsNearest (.ofModel (.pack (x.toModel.unpack.div Format.binary64 y.toModel.unpack))) 0
    rw [hdiv]
    exact isNearest_zero s
  exact hzero.isPart le_rfl zero_le_one

theorem ofDouble_ne_zero (hx : x.isFinite = true) (h : (x == 0) = false) :
    (Exact.ofDouble x : ℚ) ≠ 0 := by
  intro hzero
  have hexact := isNearest_ofDouble hx
  rw [hzero] at hexact
  have hrank : rank x = 0 := by
    rw [hexact.rank]
    simp [nearestRank, magnitudeRank_zero]
  rw [beq_zero_iff.2 ⟨hrank, hexact.isNaN⟩] at h
  exact Bool.noConfusion h

/-- A double lies on the way from zero to another. -/
inductive IsOnWay (x y : Float) : Prop
  | up (h0 : 0 ≤ x) (h : x ≤ y)
  | down (h0 : x ≤ 0) (h : y ≤ x)

namespace IsOnWay

theorem isNaN (h : IsOnWay x y) : x.isNaN = false ∧ y.isNaN = false := by
  cases h with
  | up h0 h => exact ⟨(le_iff_rank_le.1 h).1, (le_iff_rank_le.1 h).2.1⟩
  | down h0 h => exact ⟨(le_iff_rank_le.1 h).2.1, (le_iff_rank_le.1 h).1⟩

theorem abs_rank_le (h : IsOnWay x y) : |rank x| ≤ |rank y| := by
  cases h with
  | up h0 h =>
    have h0 := (le_iff_rank_le.1 h0).2.2
    have h := (le_iff_rank_le.1 h).2.2
    rw [rank_zero] at h0
    exact abs_le_abs_of_nonneg h0 h
  | down h0 h =>
    have h0 := (le_iff_rank_le.1 h0).2.2
    have h := (le_iff_rank_le.1 h).2.2
    rw [rank_zero] at h0
    exact abs_le_abs_of_nonpos h0 h

/-- There is no telling which part of the way it is when it is infinitely far, or when there is no
way at all. -/
theorem isNaN_div (h : IsOnWay x y) (hlost : x.isInf = true ∨ (y == 0) = true) :
    (x / y).isNaN = true := by
  obtain hx | hy := hlost
  · exact isNaN_div_of_isInf hx (isInf_of_abs_rank_le hx h.isNaN.2 h.abs_rank_le)
  · have hrank := h.abs_rank_le
    rw [(beq_zero_iff.1 hy).1, abs_zero, abs_nonpos_iff] at hrank
    exact isNaN_div_of_zero (beq_zero_iff.2 ⟨hrank, h.isNaN.1⟩) hy

theorem isPart_div (h : IsOnWay x y) (hx : x.isInf = false) (hy : (y == 0) = false) :
    IsPart (x / y) := by
  have hfx := isFinite_of_not_isInf h.isNaN.1 hx
  cases hinf : y.isInf with
  | true => exact isPart_div_of_isInf hfx hinf
  | false =>
    have hfy := isFinite_of_not_isInf h.isNaN.2 hinf
    have hnearest := isNearest_div hfx hfy (ofDouble_ne_zero hfy hy)
    cases h with
    | up h0 h =>
      have h0 := ofDouble_le_ofDouble (x := 0) (by decide) hfx h0
      have h := ofDouble_le_ofDouble hfx hfy h
      rw [ofDouble_zero] at h0
      exact hnearest.isPart (div_nonneg h0 (h0.trans h)) (div_le_one_of_le₀ h (h0.trans h))
    | down h0 h =>
      have h0 := ofDouble_le_ofDouble (y := 0) hfx (by decide) h0
      have h := neg_le_neg (ofDouble_le_ofDouble hfy hfx h)
      rw [ofDouble_zero, ← neg_nonneg] at h0
      rw [← neg_div_neg_eq] at hnearest
      exact hnearest.isPart (div_nonneg h0 (h0.trans h)) (div_le_one_of_le₀ h (h0.trans h))

end IsOnWay

end

/-! ## Bounds -/

/-- A finite double between two opposite numbers. -/
structure IsBounded (x : Float) (c : ℚ) : Prop where
  isFinite : x.isFinite = true
  abs_le : |(Exact.ofDouble x : ℚ)| ≤ c

section

variable {x y z : Float} {b c q : ℚ}

theorem IsBounded.mono (h : IsBounded x b) (hbc : b ≤ c) : IsBounded x c :=
  ⟨h.isFinite, h.abs_le.trans hbc⟩

/-- The numbers that the bits of a double write are told by its rank. -/
theorem ofDouble_eq_neg (hx : x.isFinite = true) (hy : y.isFinite = true)
    (h : rank x = -rank y) : (Exact.ofDouble x : ℚ) = -Exact.ofDouble y := by
  obtain ⟨m, k, hm⟩ := exists_isWritten hx
  obtain ⟨n, l, hn⟩ := exists_isWritten hy
  have hmc := hm.mantissa_lt
  have hnc := hn.mantissa_lt
  have hmn := hm.normal
  have hnn := hn.normal
  rw [hm.rank_eq, hn.rank_eq] at h
  rw [hm.ofDouble_eq hx, hn.ofDouble_eq hy]
  cases hs : sign x <;> cases ht : sign y <;> rw [hs, ht] at h <;> simp only [Sign.apply] at h
  · obtain ⟨rfl, rfl⟩ : m = 0 ∧ n = 0 := by omega
    simp
  · obtain ⟨rfl, rfl⟩ : m = n ∧ k = l := by omega
    simp [signValue]
  · obtain ⟨rfl, rfl⟩ : m = n ∧ k = l := by omega
    simp [signValue]
  · obtain ⟨rfl, rfl⟩ : m = 0 ∧ n = 0 := by omega
    simp

theorem IsNearest.isBounded (hx : IsNearest x q) (hy : y.isFinite = true)
    (h : |q| ≤ Exact.ofDouble y) : IsBounded x (Exact.ofDouble y) := by
  have hfinite := hx.isFinite hy (h.trans (le_abs_self _))
  have hexact := isNearest_ofDouble hfinite
  obtain ⟨hlow, hhigh⟩ := abs_le.1 h
  have hlow' := nearestRank_mono hlow
  rw [nearestRank_neg, ← (isNearest_ofDouble hy).rank, ← hx.rank] at hlow'
  refine ⟨hfinite, abs_le.2 ⟨le_of_not_gt fun hlt => ?_, ?_⟩⟩
  · -- Below the bound the rank would be no greater, and with the same rank there is the bound.
    have hrank := nearestRank_mono hlt.le
    rw [nearestRank_neg, ← (isNearest_ofDouble hy).rank, ← hexact.rank] at hrank
    exact hlt.ne (ofDouble_eq_neg hfinite hy (le_antisymm hrank hlow'))
  · exact ofDouble_le_ofDouble hfinite hy (hx.le (isNearest_ofDouble hy) hhigh)

theorem isBounded_sub (hx : IsBounded x b) (hy : IsBounded y c) (hz : z.isFinite = true)
    (h : b + c ≤ Exact.ofDouble z) : IsBounded (x - y) (Exact.ofDouble z) := by
  refine (isNearest_sub hx.isFinite hy.isFinite).isBounded hz ?_
  have hsub := abs_sub (Exact.ofDouble x : ℚ) (Exact.ofDouble y)
  have hx' := hx.abs_le
  have hy' := hy.abs_le
  linarith

theorem isBounded_add (hx : IsBounded x b) (hy : IsBounded y c) (hz : z.isFinite = true)
    (h : b + c ≤ Exact.ofDouble z) : IsBounded (x + y) (Exact.ofDouble z) := by
  refine (isNearest_add hx.isFinite hy.isFinite).isBounded hz ?_
  have hadd := abs_add_le (Exact.ofDouble x : ℚ) (Exact.ofDouble y)
  have hx' := hx.abs_le
  have hy' := hy.abs_le
  linarith

theorem abs_mul_le (hx : IsPart x) (hy : IsBounded y c) :
    |(Exact.ofDouble x * Exact.ofDouble y : ℚ)| ≤ c := by
  obtain ⟨h0, h1⟩ := hx.ofDouble_mem
  rw [abs_mul, abs_of_nonneg h0]
  exact (mul_le_of_le_one_left (abs_nonneg _) h1).trans hy.abs_le

/-- A part of a double is no greater. -/
theorem isBounded_mul (hx : IsPart x) (hy : IsBounded y (Exact.ofDouble z))
    (hz : z.isFinite = true) : IsBounded (x * y) (Exact.ofDouble z) :=
  (isNearest_mul hx.isFinite hy.isFinite).isBounded hz (abs_mul_le hx hy)

theorem isFinite_part_mul (hx : IsPart x) (hy : y.isFinite = true) : (x * y).isFinite = true :=
  (isNearest_mul hx.isFinite hy).isFinite hy (abs_mul_le hx ⟨hy, le_rfl⟩)

theorem abs_mul_unitsOfOne_le (hx : x.isFinite = true) :
    |(Exact.ofDouble x : ℚ)| * unitsOfOne ≤ (2 ^ 53 - 1) * 2 ^ 2045 := by
  obtain ⟨m, k, hm⟩ := exists_isWritten hx
  have hsign : |signValue (sign x)| = 1 := by cases sign x <;> simp [signValue]
  have hpos : (0 : ℚ) ≤ m * 2 ^ (k - 1074 : ℤ) :=
    mul_nonneg (Nat.cast_nonneg m) (zpow_pos two_pos _).le
  have hmantissa : (m : ℚ) ≤ 2 ^ 53 - 1 := by
    have hle : ((m + 1 : ℕ) : ℚ) ≤ (2 ^ 53 : ℕ) := Nat.cast_le.2 hm.mantissa_lt
    push_cast at hle
    linarith
  rw [hm.ofDouble_eq hx, abs_mul, hsign, one_mul, abs_of_nonneg hpos, mul_zpow_mul_unitsOfOne,
    sub_add_cancel, zpow_natCast]
  exact mul_le_mul hmantissa (pow_le_pow_right₀ one_le_two hm.exponent_le) (by positivity)
    (by norm_num)

/-- No difference from a moderate double leaves the range of doubles. -/
theorem isFinite_of_isNearest_sub (hx : x.isFinite = true) (hy : IsBounded y (2 ^ 960))
    (hz : IsNearest z q) (h : |q| ≤ |Exact.ofDouble x| + |Exact.ofDouble y|) :
    z.isFinite = true := by
  refine hz.isFinite_of_lt ?_
  have hgreatest := abs_mul_unitsOfOne_le hx
  have hmoderate : |(Exact.ofDouble y : ℚ)| * unitsOfOne ≤ 2 ^ 960 * 2 ^ 1074 :=
    mul_le_mul_of_nonneg_right hy.abs_le unitsOfOne_pos.le
  have hsum := mul_le_mul_of_nonneg_right h unitsOfOne_pos.le
  have hhalf : (2 : ℚ) ^ 960 * 2 ^ 1074 < 2 ^ 2044 := by
    rw [← pow_add]
    exact pow_lt_pow_right₀ one_lt_two (by decide)
  have hdouble : (2 : ℚ) ^ 2045 = 2 ^ 2044 * 2 := pow_succ 2 2044
  rw [add_mul] at hsum
  rw [hdouble] at hgreatest ⊢
  generalize (2 : ℚ) ^ 2044 = p at hgreatest hhalf ⊢
  generalize (2 : ℚ) ^ 960 * 2 ^ 1074 = r at hmoderate hhalf
  linarith

theorem isInf_sub_iff (hx : x.isNaN = false) (hy : IsBounded y (2 ^ 960)) :
    (x - y).isInf = true ↔ x.isInf = true := by
  constructor
  · intro h
    by_contra hnot
    have hfinite := isFinite_of_not_isInf hx (Bool.eq_false_of_not_eq_true hnot)
    have hsub := isFinite_of_isNearest_sub hfinite hy (isNearest_sub hfinite hy.isFinite)
      (abs_sub _ _)
    rw [(isInf_iff.1 h).2] at hsub
    exact Bool.false_ne_true hsub
  · intro h
    obtain ⟨hnumber, hrank⟩ := sub_of_isInf h hy.isFinite
    exact isInf_of_abs_rank_le h hnumber (by rw [hrank])

end

end StyledMap.Double
