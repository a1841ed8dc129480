import Mathlib
import StyledMap.Double.Parts

/-! # The order of doubles

Comparison of doubles is decided by their bits. Everything here is about the logical model of
doubles and speaks of no style.

* `Shape s n u`: `u` is the unpacked double of sign `s` whose other bits write the number `n`.
* `rank x`: that number with the sign, so both zeros have rank zero.
* `lt_iff_rank_lt` and `beq_iff_rank_eq`: doubles that are numbers compare as their ranks do, and
  all else compares as nothing.
* `beq_iff_valueBits_eq`: equality is equality of the bits of the value.
* `isNaN_toFloat` and `isNaN_neg`: whole numbers become numbers.
-/

set_option autoImplicit false

namespace StyledMap.Double

open Float.Model Float.Model.UnpackedFloat

/-! ## The fields of the bits -/

theorem unpackMantissa_toNat (b : BitVec Format.binary64.numBits) :
    (unpackMantissa b).toNat = b.toNat % 2 ^ 52 := by
  simp [unpackMantissa]

theorem unpackExponent_toNat (b : BitVec Format.binary64.numBits) :
    (unpackExponent b).toNat = b.toNat / 2 ^ 52 % 2 ^ 11 := by
  simp [unpackExponent, Nat.shiftRight_eq_div_pow]

theorem unpackSign_toNat (b : BitVec Format.binary64.numBits) :
    (unpackSign b).toNat = b.toNat / 2 ^ 63 := by
  have hb : b.toNat < 2 ^ 64 := b.isLt
  simp only [unpackSign, BitVec.toNat_cast, BitVec.extractLsb_toNat, Nat.shiftRight_eq_div_pow]
  have : b.toNat / 2 ^ 63 < 2 := by omega
  exact Nat.mod_eq_of_lt this

/-- The sign of a double, by its sign bit. -/
def sign (x : Float) : Sign :=
  if isNegative x then .negative else .positive

theorem sign_unpack (x : Float) :
    Sign.ofBitVec (@unpackSign Format.binary64 x.toBits.toBitVec) = sign x := by
  have h := unpackSign_toNat x.toBits.toBitVec
  have hlt := x.toBits.toNat_lt
  rw [show x.toBits.toBitVec.toNat = x.toBits.toNat from rfl] at h
  unfold Sign.ofBitVec sign isNegative
  by_cases hs : 2 ^ 63 ≤ x.toBits.toNat
  · rw [if_neg, if_pos (by simpa using hs)]
    intro h0
    rw [h0] at h
    simp only [BitVec.toNat_zero] at h
    omega
  · rw [if_pos, if_neg (by simpa using hs)]
    apply BitVec.eq_of_toNat_eq
    rw [h]
    simp only [BitVec.toNat_zero]
    omega

/-- Unpacked doubles by their sign and the number that their other bits write. In the finite case
the number is `k * 2 ^ 52 + m`: the hidden bit of the mantissa `m` counts up the exponent. -/
inductive Shape (s : Sign) (n : Nat) : UnpackedFloat → Prop
  | infinity (h : n = 2047 * 2 ^ 52) : Shape s n (.infinity s)
  | notANumber (h : 2047 * 2 ^ 52 < n) : Shape s n .notANumber
  | zero (h : n = 0) : Shape s n (.zero s)
  | finite (m k : Nat) (e : Int) (hm : 0 < m) (h : n = k * 2 ^ 52 + m) (he : e = k - 1074)
      (hk : k ≤ 2045) (hc : m < 2 ^ 53) (hn : 2 ^ 52 ≤ m ∨ k = 0) :
      Shape s n (.finite s m e hm)

theorem shape_unpack (x : Float) :
    Shape (sign x) (x.toBits.toNat % 2 ^ 63) x.toModel.unpack := by
  have hm := unpackMantissa_toNat x.toBits.toBitVec
  have he := unpackExponent_toNat x.toBits.toBitVec
  have hs := sign_unpack x
  rw [show x.toBits.toBitVec.toNat = x.toBits.toNat from rfl] at hm he
  change Shape _ _ (UnpackedFloat.unpack Format.binary64 x.toBits.toBitVec)
  simp only [UnpackedFloat.unpack, ← BitVec.toNat_inj, hs]
  split
  · next hexp =>
    rw [he] at hexp
    replace hexp : x.toBits.toNat / 2 ^ 52 % 2 ^ 11 = 2047 := hexp
    split
    · next h0 =>
      rw [hm] at h0
      replace h0 : x.toBits.toNat % 2 ^ 52 = 0 := h0
      exact .infinity (by omega)
    · next h0 =>
      rw [hm] at h0
      replace h0 : ¬ x.toBits.toNat % 2 ^ 52 = 0 := h0
      exact .notANumber (by omega)
  · next hexp =>
    rw [he] at hexp
    replace hexp : ¬ x.toBits.toNat / 2 ^ 52 % 2 ^ 11 = 2047 := hexp
    split
    · next hz =>
      rw [he] at hz
      replace hz : x.toBits.toNat / 2 ^ 52 % 2 ^ 11 = 0 := hz
      split
      · next h0 =>
        rw [hm] at h0
        replace h0 : x.toBits.toNat % 2 ^ 52 = 0 := h0
        exact .zero (by omega)
      · next h0 =>
        -- subnormal: no hidden bit, and the least exponent
        rw [hm] at h0
        replace h0 : ¬ x.toBits.toNat % 2 ^ 52 = 0 := h0
        refine .finite _ 0 _ _ ?_ ?_ (by omega) ?_ (.inr rfl)
        · rw [hm]; omega
        · rw [he, hz]; decide
        · rw [hm]; omega
    · next hz =>
      rw [he] at hz
      replace hz : ¬ x.toBits.toNat / 2 ^ 52 % 2 ^ 11 = 0 := hz
      have hidden : (1#1 ++ @unpackMantissa Format.binary64 x.toBits.toBitVec).toNat =
          2 ^ 52 + x.toBits.toNat % 2 ^ 52 := by
        rw [BitVec.toNat_append, ← Nat.shiftLeft_add_eq_or_of_lt (BitVec.isLt _), hm]
        rfl
      refine .finite _ (x.toBits.toNat / 2 ^ 52 % 2 ^ 11 - 1) _ _ ?_ ?_ (by omega) ?_ (.inl ?_)
      · rw [hidden]; omega
      · rw [he, show Format.binary64.exponentBias = 1023 from by decide]
        omega
      · rw [hidden]; omega
      · rw [hidden]; omega

/-! ## Comparison of unpacked doubles -/

theorem compare_then {m n k l : Nat} {d e : Int} (hd : d = k - 1074) (he : e = l - 1074)
    (hm : m < 2 ^ 53) (hn : n < 2 ^ 53) (hk : 2 ^ 52 ≤ m ∨ k = 0) (hl : 2 ^ 52 ≤ n ∨ l = 0) :
    (compare d e).then (compare m n) =
      compare ((k * 2 ^ 52 + m : Nat) : Int) ((l * 2 ^ 52 + n : Nat) : Int) := by
  subst hd he
  rcases Nat.lt_trichotomy k l with h | h | h
  · rw [Int.compare_eq_lt.2 (by omega), Int.compare_eq_lt.2 (by omega)]; rfl
  · subst h
    rw [Int.compare_eq_eq.2 rfl, Ordering.eq_then]
    rcases Nat.lt_trichotomy m n with h | h | h
    · rw [Nat.compare_eq_lt.2 h, Int.compare_eq_lt.2 (by omega)]
    · rw [Nat.compare_eq_eq.2 h, Int.compare_eq_eq.2 (by omega)]
    · rw [Nat.compare_eq_gt.2 h, Int.compare_eq_gt.2 (by omega)]
  · rw [Int.compare_eq_gt.2 (by omega), Int.compare_eq_gt.2 (by omega)]; rfl

theorem apply_bounds (s : Sign) (n : Nat) : -(n : Int) ≤ s.apply n ∧ s.apply n ≤ n := by
  cases s <;> simp only [Sign.apply] <;> omega

theorem compare_neg_neg (a b : Int) : compare (-a) (-b) = compare b a := by
  rcases Int.lt_trichotomy a b with h | h | h
  · rw [Int.compare_eq_gt.2 (by omega), Int.compare_eq_gt.2 h]
  · rw [Int.compare_eq_eq.2 (by omega), Int.compare_eq_eq.2 h.symm]
  · rw [Int.compare_eq_lt.2 (by omega), Int.compare_eq_lt.2 h]

/-- Unpacked doubles that are numbers compare as their signed bits. -/
theorem compare_shape {s t : Sign} {m n : Nat} {u v : UnpackedFloat} (hu : Shape s m u)
    (hv : Shape t n v) (hx : u.isNaN = false) (hy : v.isNaN = false) :
    u.compare v = some (compare (s.apply m) (t.apply n)) := by
  have hs := apply_bounds s m
  have ht := apply_bounds t n
  have below (h : s.apply m < t.apply n) : some .lt = some (compare (s.apply m) (t.apply n)) :=
    congrArg some (Int.compare_eq_lt.2 h).symm
  have same (h : s.apply m = t.apply n) : some .eq = some (compare (s.apply m) (t.apply n)) :=
    congrArg some (Int.compare_eq_eq.2 h).symm
  have above (h : t.apply n < s.apply m) : some .gt = some (compare (s.apply m) (t.apply n)) :=
    congrArg some (Int.compare_eq_gt.2 h).symm
  fun_cases UnpackedFloat.compare u v with
  | case1 => contradiction
  | case2 => contradiction
  | case3 =>
    cases hu; cases hv
    cases s <;> cases t
    · exact same (by simp only [Sign.apply]; omega)
    · exact below (by simp only [Sign.apply]; omega)
    · exact above (by simp only [Sign.apply]; omega)
    · exact same (by simp only [Sign.apply]; omega)
  | case12 =>
    cases hu; cases hv
    exact same (by omega)
  | case13 =>
    obtain - | - | - | ⟨_, k, _, _, rfl, hd, hk, hm, hkm⟩ := hu
    obtain - | - | - | ⟨_, l, _, _, rfl, he, hl, hn, hln⟩ := hv
    rw [compare_then hd he hm hn hkm hln, Int.compare_swap]
    exact congrArg some (compare_neg_neg _ _).symm
  | case16 =>
    obtain - | - | - | ⟨_, k, _, _, rfl, hd, hk, hm, hkm⟩ := hu
    obtain - | - | - | ⟨_, l, _, _, rfl, he, hl, hn, hln⟩ := hv
    exact congrArg some (compare_then hd he hm hn hkm hln)
  | case5 | case6 | case9 | case10 | case14 =>
    refine below ?_
    cases hu <;> cases hv <;> simp only [Sign.apply] at * <;> first | omega | grind
  | case4 | case7 | case8 | case11 | case15 =>
    refine above ?_
    cases hu <;> cases hv <;> simp only [Sign.apply] at * <;> first | omega | grind

/-! ## Comparison of doubles -/

/-- The place of a double among the doubles: the number that its bits write without the sign bit,
with the sign. -/
def rank (x : Float) : Int :=
  (sign x).apply (x.toBits.toNat % 2 ^ 63 : Nat)

theorem compare_unpack {x y : Float} (hx : x.isNaN = false) (hy : y.isNaN = false) :
    x.toModel.unpack.compare y.toModel.unpack = some (compare (rank x) (rank y)) :=
  compare_shape (shape_unpack x) (shape_unpack y) hx hy

theorem compare_unpack_of_isNaN {x y : Float} (h : x.isNaN = true ∨ y.isNaN = true) :
    x.toModel.unpack.compare y.toModel.unpack = none := by
  change x.toModel.unpack.isNaN = true ∨ y.toModel.unpack.isNaN = true at h
  cases hx : x.toModel.unpack <;> cases hy : y.toModel.unpack <;>
    simp_all [UnpackedFloat.isNaN, UnpackedFloat.compare]

theorem lt_iff_compare (x y : Float) :
    x < y ↔ x.toModel.unpack.compare y.toModel.unpack = some .lt := by
  change decide ((x.toModel.unpack.compare y.toModel.unpack == some .lt) = true) = true ↔ _
  rw [decide_eq_true_iff]
  exact beq_iff_eq

theorem beq_iff_compare (x y : Float) :
    (x == y) = true ↔ x.toModel.unpack.compare y.toModel.unpack = some .eq := by
  change (x.toModel.unpack.compare y.toModel.unpack == some .eq) = true ↔ _
  exact beq_iff_eq

/-- One double is less than another when both are numbers and its rank is. -/
theorem lt_iff_rank_lt {x y : Float} :
    x < y ↔ x.isNaN = false ∧ y.isNaN = false ∧ rank x < rank y := by
  rw [lt_iff_compare]
  cases hx : x.isNaN with
  | true => rw [compare_unpack_of_isNaN (.inl hx)]; simp
  | false =>
    cases hy : y.isNaN with
    | true => rw [compare_unpack_of_isNaN (.inr hy)]; simp
    | false => rw [compare_unpack hx hy, Option.some.injEq, Int.compare_eq_lt]; simp

/-- Two doubles are equal when both are numbers of one rank. -/
theorem beq_iff_rank_eq {x y : Float} :
    (x == y) = true ↔ x.isNaN = false ∧ y.isNaN = false ∧ rank x = rank y := by
  rw [beq_iff_compare]
  cases hx : x.isNaN with
  | true => rw [compare_unpack_of_isNaN (.inl hx)]; simp
  | false =>
    cases hy : y.isNaN with
    | true => rw [compare_unpack_of_isNaN (.inr hy)]; simp
    | false => rw [compare_unpack hx hy, Option.some.injEq, Int.compare_eq_eq]; simp

theorem beq_self_iff {x : Float} : (x == x) = true ↔ x.isNaN = false := by
  rw [beq_iff_rank_eq]
  exact ⟨fun h => h.1, fun h => ⟨h, h, rfl⟩⟩

theorem beq_comm (x y : Float) : (x == y) = (y == x) := by
  rw [Bool.eq_iff_iff, beq_iff_rank_eq, beq_iff_rank_eq]
  constructor <;> exact fun ⟨h, h', e⟩ => ⟨h', h, e.symm⟩

theorem beq_trans {x y z : Float} (hxy : (x == y) = true) (hyz : (y == z) = true) :
    (x == z) = true := by
  rw [beq_iff_rank_eq] at *
  exact ⟨hxy.1, hyz.2.1, hxy.2.2.trans hyz.2.2⟩

theorem lt_asymm {x y : Float} (h : x < y) : ¬ y < x := by
  rw [lt_iff_rank_lt] at *
  omega

theorem le_iff_compare (x y : Float) :
    x ≤ y ↔ (x.toModel.unpack.compare y.toModel.unpack).any Ordering.isLE = true := by
  change decide (x.toModel.unpack.le y.toModel.unpack = true) = true ↔ _
  rw [decide_eq_true_iff, UnpackedFloat.le]

/-- Of two numbers one is at most the other, or greater. -/
theorem not_le_iff {x y : Float} (hx : x.isNaN = false) (hy : y.isNaN = false) :
    ¬ x ≤ y ↔ y < x := by
  rw [le_iff_compare, compare_unpack hx hy, Option.any_some, Int.isLE_compare, Int.not_le,
    lt_iff_rank_lt]
  exact ⟨fun h => ⟨hy, hx, h⟩, fun h => h.2.2⟩

/-- One double is at most another when both are numbers and its rank is. -/
theorem le_iff_rank_le {x y : Float} :
    x ≤ y ↔ x.isNaN = false ∧ y.isNaN = false ∧ rank x ≤ rank y := by
  rw [le_iff_compare]
  cases hx : x.isNaN with
  | true => rw [compare_unpack_of_isNaN (.inl hx)]; simp
  | false =>
    cases hy : y.isNaN with
    | true => rw [compare_unpack_of_isNaN (.inr hy)]; simp
    | false => rw [compare_unpack hx hy, Option.any_some, Int.isLE_compare]; simp

/-- Two inputs in order are below the same doubles, if none comes between them. -/
theorem lt_iff_of_le {x y p : Float} (hxy : x ≤ y) (hp : ¬ (x < p ∧ p ≤ y)) : x < p ↔ y < p := by
  rw [le_iff_rank_le] at hxy
  rw [lt_iff_rank_lt, le_iff_rank_le] at hp
  rw [lt_iff_rank_lt, lt_iff_rank_lt]
  constructor
  · rintro ⟨hx, hn, hlt⟩
    refine ⟨hxy.2.1, hn, Int.not_le.1 fun hle => hp ⟨⟨hx, hn, hlt⟩, hn, hxy.2.1, hle⟩⟩
  · rintro ⟨-, hn, hlt⟩
    exact ⟨hxy.1, hn, Int.lt_of_le_of_lt hxy.2.2 hlt⟩

theorem not_lt_of_lt_of_le {x y z : Float} (hxy : x < y) (hyz : y ≤ z) : ¬ z < x := by
  rw [lt_iff_rank_lt] at *
  rw [le_iff_rank_le] at hyz
  omega

theorem not_lt_of_le {x y : Float} (h : x ≤ y) : ¬ y < x := by
  rw [le_iff_rank_le] at h
  rw [lt_iff_rank_lt]
  omega

instance instAsymmLt : Std.Asymm (fun x y : Float => x < y) := ⟨fun _ _ => lt_asymm⟩

/-! ## The bits of the value -/

theorem toBits_inj {x y : Float} (h : x.toBits = y.toBits) : x = y := by
  obtain ⟨⟨a, ha⟩⟩ := x
  obtain ⟨⟨b, hb⟩⟩ := y
  obtain rfl : a = b := h
  rfl

theorem rank_zero : rank 0 = 0 := by decide

theorem beq_zero_iff {x : Float} : (x == 0) = true ↔ rank x = 0 ∧ x.isNaN = false := by
  rw [beq_iff_rank_eq, rank_zero]
  exact ⟨fun h => ⟨h.2.2, h.1⟩, fun h => ⟨h.2, by decide, h.1⟩⟩

theorem beq_zero_of_toBits {x : Float} (h : 0 = x.toBits) : (x == 0) = true := by
  obtain rfl : (0 : Float) = x := toBits_inj (h ▸ by decide)
  decide

theorem rank_of_negative {x : Float} (h : 2 ^ 63 ≤ x.toBits.toNat) :
    rank x = -(x.toBits.toNat % 2 ^ 63 : Nat) := by
  rw [rank, sign, isNegative, decide_eq_true h]
  rfl

theorem rank_of_not_negative {x : Float} (h : ¬ 2 ^ 63 ≤ x.toBits.toNat) :
    rank x = (x.toBits.toNat % 2 ^ 63 : Nat) := by
  rw [rank, sign, isNegative, decide_eq_false h]
  rfl

theorem toBits_eq_of_rank_eq {x y : Float} (h : rank x = rank y) (hx : rank x ≠ 0) :
    x.toBits = y.toBits := by
  have hlx := x.toBits.toNat_lt
  have hly := y.toBits.toNat_lt
  apply UInt64.toNat_inj.1
  by_cases hnx : 2 ^ 63 ≤ x.toBits.toNat <;> by_cases hny : 2 ^ 63 ≤ y.toBits.toNat
  · rw [rank_of_negative hnx] at h hx
    rw [rank_of_negative hny] at h
    omega
  · rw [rank_of_negative hnx] at h hx
    rw [rank_of_not_negative hny] at h
    omega
  · rw [rank_of_not_negative hnx] at h hx
    rw [rank_of_negative hny] at h
    omega
  · rw [rank_of_not_negative hnx] at h hx
    rw [rank_of_not_negative hny] at h
    omega

/-- A number equals a double exactly when the bits of their values are the same: the same bits,
or two zeros. -/
theorem beq_iff_valueBits_eq {x y : Float} (hx : x.isNaN = false) :
    (x == y) = true ↔ valueBits x = valueBits y := by
  unfold valueBits
  by_cases hx0 : (x == 0) = true <;> by_cases hy0 : (y == 0) = true
  · rw [if_pos hx0, if_pos hy0]
    rw [beq_zero_iff] at hx0 hy0
    exact iff_of_true (beq_iff_rank_eq.2 ⟨hx, hy0.2, hx0.1.trans hy0.1.symm⟩) rfl
  · rw [if_pos hx0, if_neg hy0]
    refine iff_of_false (fun h => hy0 ?_) (fun h => hy0 (beq_zero_of_toBits h))
    rw [beq_iff_rank_eq] at h
    exact beq_zero_iff.2 ⟨h.2.2.symm.trans (beq_zero_iff.1 hx0).1, h.2.1⟩
  · rw [if_neg hx0, if_pos hy0]
    refine iff_of_false (fun h => hx0 ?_) (fun h => hx0 (beq_zero_of_toBits h.symm))
    rw [beq_iff_rank_eq] at h
    exact beq_zero_iff.2 ⟨h.2.2.trans (beq_zero_iff.1 hy0).1, hx⟩
  · rw [if_neg hx0, if_neg hy0]
    have hr : rank x ≠ 0 := fun h => hx0 (beq_zero_iff.2 ⟨h, hx⟩)
    constructor
    · intro h
      exact toBits_eq_of_rank_eq (beq_iff_rank_eq.1 h).2.2 hr
    · intro h
      rw [← toBits_inj h]
      exact beq_self_iff.2 hx

/-! ## Whole numbers -/

theorem isNaN_unpack (b : BitVec Format.binary64.numBits) :
    (UnpackedFloat.unpack Format.binary64 b).isNaN =
      decide (unpackExponent b = -1#_ ∧ unpackMantissa b ≠ 0#_) := by
  simp only [UnpackedFloat.unpack]
  split
  · next h => split <;> simp_all [UnpackedFloat.isNaN]
  · next h =>
    rw [eq_comm, decide_eq_false (fun hc => h hc.1)]
    split
    · split <;> rfl
    · rfl

/-- Packing makes no number into something that is none. -/
theorem isNaN_unpack_pack {u : UnpackedFloat} (h : u.isNaN = false) :
    (UnpackedFloat.unpack Format.binary64 (UnpackedFloat.pack Format.binary64 u)).isNaN =
      false := by
  rw [isNaN_unpack, decide_eq_false_iff_not]
  fun_cases UnpackedFloat.pack with
  | case1 => contradiction
  | case2 s => simp [packedInfinity]
  | case3 s => simp [packedZero]
  | case4 s m e hm k hk => simp [packedInfinity]
  | case5 s m e hm k b hb hm' =>
    -- beyond the greatest exponent is `case4`, so the field is not all ones
    rintro ⟨he, -⟩
    rw [unpackExponent_packComponents, ← BitVec.toNat_inj] at he
    replace he : b % 2 ^ 11 = 2047 := he
    replace hb : ¬ 2 ^ 11 ≤ b + 1 := hb
    omega
  | case6 s m e hm k b hb hm' => simp

theorem isNaN_normalize (m e : Int) (s : Sign) :
    (UnpackedFloat.normalize Format.binary64 m e s).isNaN = false := by
  unfold UnpackedFloat.normalize UnpackedFloat.round UnpackedFloat.roundWithAccuracy
  split
  · simp only; split <;> rfl
  · rfl
  · simp only; split <;> rfl

theorem isNaN_toFloat (n : UInt64) : n.toFloat.isNaN = false :=
  isNaN_unpack_pack (isNaN_normalize _ _ _)

theorem isNaN_neg {x : Float} (h : x.isNaN = false) : (-x).isNaN = false := by
  change x.toModel.unpack.isNaN = false at h
  refine isNaN_unpack_pack (u := x.toModel.unpack.neg) ?_
  revert h
  cases x.toModel.unpack <;> simp [UnpackedFloat.isNaN, UnpackedFloat.neg]

end StyledMap.Double
