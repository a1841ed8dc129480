import Mathlib.Algebra.Order.Floor.Ring
import Mathlib.Tactic.Linarith
import Mathlib.Tactic.Ring
import StyledMap.Arith

/-! # Exact arithmetic

Styles can be evaluated in any ordered field with whole parts, such as the rational numbers. A
literal is then the number that it writes, and a double the number that it denotes.

* `Exact.ofDecimal` and `Exact.ofDouble`: those numbers.
* `Exact.remainder`: the remainder with the sign of the dividend.
* `Powers`: a field has no powers of its own for exponents that are not whole, so the function is
  left open, and nothing here depends on it.
* `Exact.arith`: the arithmetic.
* `clamp_mem` and `wrap_eq`: what the derived operations are.
-/

set_option autoImplicit false

namespace StyledMap

/-- A function for powers. -/
class Powers (K : Type) where
  pow : K → K → K

namespace Exact

/-! ## Numbers -/

section

variable {K : Type} [Field K]

/-- The number that a literal writes. -/
def ofDecimal (d : Decimal) : K :=
  let magnitude : K := d.digits * 10 ^ d.exponent
  if d.negative then -magnitude else magnitude

/-- The number that a finite double denotes; of other doubles it is zero. -/
def ofDouble (x : Float) : K :=
  if x.isFinite then
    let (num, den) := (Double.parts x).fraction
    let magnitude : K := num / den
    if Double.isNegative x then -magnitude else magnitude
  else 0

theorem ofDouble_of_fraction {x : Float} {num den : ℕ} (hfinite : x.isFinite = true)
    (hsign : Double.isNegative x = false) (h : (Double.parts x).fraction = (num, den)) :
    ofDouble x = (num / den : K) := by
  rw [ofDouble, if_pos hfinite, h, hsign]
  rfl

variable [LinearOrder K] [FloorRing K]

/-- The whole number next to a number on the side of zero. -/
def wholePart (x : K) : ℤ :=
  if 0 ≤ x then ⌊x⌋ else ⌈x⌉

/-- What is left of a number after the whole multiples of `n` between it and zero. -/
def remainder (x : K) (n : ℕ) : K :=
  x - n * wholePart (x / n)

scoped instance arith [Powers K] : Arith K where
  toAdd := Distrib.toAdd
  toSub := Ring.toSub
  toMul := Distrib.toMul
  toDiv := Field.toDiv
  toLT := Preorder.toLT
  toBEq := instBEqOfDecidableEq
  decideLT := fun _ _ => inferInstance
  nat := Nat.cast
  ofDouble := ofDouble
  ofDecimal? := fun d => some (ofDecimal d)
  pow := Powers.pow
  remainder := remainder
  floor := fun x => ⌊x⌋.toNat

end

/-! ## Derived operations -/

section

variable {K : Type} [Field K] [LinearOrder K] [FloorRing K] [IsStrictOrderedRing K]

/-- A remainder to which `n` is added when it is negative counts from the multiple of `n` below. -/
theorem remainder_add (x : K) {n : ℕ} (hn : 0 < n) :
    (if remainder x n < 0 then remainder x n + n else remainder x n) =
      n * Int.fract (x / n) := by
  have hpos : (0 : K) < n := Nat.cast_pos.2 hn
  obtain ⟨q, rfl⟩ : ∃ q, x = n * q := ⟨x / n, (mul_div_cancel₀ x hpos.ne').symm⟩
  have hq : n * q / n = q := mul_div_cancel_left₀ q hpos.ne'
  rw [remainder, wholePart, hq]
  have hlow : 0 ≤ Int.fract q := Int.fract_nonneg q
  have hhigh : Int.fract q < 1 := Int.fract_lt_one q
  by_cases hs : 0 ≤ q
  · have hr : n * q - n * (⌊q⌋ : K) = n * Int.fract q := by rw [← mul_sub, Int.self_sub_floor]
    rw [if_pos hs, hr, if_neg (not_lt.2 (mul_nonneg hpos.le hlow))]
  · rw [if_neg hs]
    by_cases hf : Int.fract q = 0
    · -- A multiple of `n` leaves nothing on either side.
      have hceil : (⌈q⌉ : K) = q := by
        obtain ⟨m, rfl⟩ := Int.fract_eq_zero_iff.1 hf
        rw [Int.ceil_intCast]
      rw [hceil, sub_self, if_neg (lt_irrefl 0), hf, mul_zero]
    · have hr : n * q - n * (⌈q⌉ : K) = n * Int.fract q - n := by
        rw [Int.ceil_eq_add_one_sub_fract hf]
        ring
      have hneg : n * Int.fract q - n < 0 := by
        have hlt : n * Int.fract q < n * 1 := mul_lt_mul_of_pos_left hhigh hpos
        linarith
      rw [hr, if_pos hneg, sub_add_cancel]

end

section

open Arith

variable {K : Type} [Field K] [LinearOrder K] [FloorRing K] [Powers K]

theorem zero_eq : (zero : K) = 0 :=
  Nat.cast_zero

theorem one_eq : (one : K) = 1 :=
  Nat.cast_one

theorem clamp_mem (x : K) : clamp x ∈ Set.Icc (0 : K) 1 := by
  unfold clamp
  rw [zero_eq, one_eq]
  split
  · exact ⟨le_rfl, zero_le_one⟩
  · split
    · exact ⟨zero_le_one, le_rfl⟩
    · next hlow hhigh => exact ⟨not_lt.1 hlow, not_lt.1 hhigh⟩

theorem clamp_of_mem {x : K} (hx : x ∈ Set.Icc (0 : K) 1) : clamp x = x := by
  rw [clamp, zero_eq, one_eq, if_neg (not_lt.2 hx.1), if_neg (not_lt.2 hx.2)]

variable [IsStrictOrderedRing K]

theorem wrap_eq (x : K) {n : ℕ} (hn : 0 < n) : wrap x n = n * Int.fract (x / n) := by
  have h := remainder_add x hn
  rw [← zero_eq] at h
  exact h

/-- Whole turns do not count. -/
theorem wrap_add_turns (x : K) {n : ℕ} (hn : 0 < n) (k : ℤ) :
    wrap (x + n * k) n = wrap x n := by
  have hpos : (n : K) ≠ 0 := (Nat.cast_pos.2 hn).ne'
  have hdiv : (x + n * k) / n = x / n + k := by
    rw [add_div, mul_div_cancel_left₀ _ hpos]
  rw [wrap_eq _ hn, wrap_eq _ hn, hdiv, Int.fract_add_intCast]

end

end Exact

end StyledMap
