import Mathlib.Data.List.TakeDrop
import StyledMap.Double.Text
import StyledMap.Decimal

/-! # Written decimals

A natural number is written in the digits that read back as it, and a fixed number of places after
a point keeps its value when zeros at the end are left out.

* `digitsValue_append` and `digitsValue_toDigits`: digits in a row, and those that are written.
* `ofChars?_digits` and `ofChars?_point`: literals without a sign and without an exponent.
* `toList_padded`: places with zeros in front.
-/

set_option autoImplicit false

namespace StyledMap

/-! ## Digits -/

theorem digitsValue_eq (cs : List Char) : digitsValue cs = Nat.ofDigitChars 10 cs 0 :=
  rfl

theorem digitsValue_append (cs ds : List Char) :
    digitsValue (cs ++ ds) = 10 ^ ds.length * digitsValue cs + digitsValue ds := by
  rw [digitsValue_eq, Nat.ofDigitChars_append, Nat.ofDigitChars_eq_ofDigitChars_zero]
  rfl

theorem digitsValue_replicate_zero (k : ℕ) : digitsValue (List.replicate k '0') = 0 := by
  rw [digitsValue_eq, Nat.ofDigitChars_replicate_zero, Nat.mul_zero]

theorem digitsValue_toDigits (n : ℕ) : digitsValue (Nat.toDigits 10 n) = n :=
  Nat.ofDigitChars_ten_toDigits

theorem isDigit_of_mem_toDigits {n : ℕ} {c : Char} (h : c ∈ Nat.toDigits 10 n) :
    c.isDigit = true :=
  Nat.isDigit_of_mem_toDigits (by decide) (by decide) h

/-! ## Literals -/

section

variable {whole part : List Char} (hwhole : ∀ c ∈ whole, c.isDigit = true)

include hwhole

theorem span_digits (rest : List Char) (hrest : ∀ c ∈ rest.head?, c.isDigit = false) :
    (whole ++ rest).span Char.isDigit = (whole, rest) := by
  have hdrop : rest.dropWhile Char.isDigit = rest := by
    cases rest with
    | nil => rfl
    | cons c rest => exact List.dropWhile_cons_of_neg (by simp [hrest c rfl])
  have htake : rest.takeWhile Char.isDigit = [] := by
    cases rest with
    | nil => rfl
    | cons c rest => exact List.takeWhile_cons_of_neg (by simp [hrest c rfl])
  rw [List.span_eq_takeWhile_dropWhile, List.takeWhile_append_of_pos hwhole,
    List.dropWhile_append_of_pos hwhole, hdrop, htake, List.append_nil]

/-- Digits carry no sign in front. -/
theorem takeSign_digits (hne : whole ≠ []) (rest : List Char) :
    takeSign (whole ++ rest) = (false, whole ++ rest) := by
  cases whole with
  | nil => exact absurd rfl hne
  | cons c whole =>
    have hc : c.isDigit = true := hwhole c List.mem_cons_self
    have hminus : c ≠ '-' := by rintro rfl; exact absurd hc (by decide)
    have hplus : c ≠ '+' := by rintro rfl; exact absurd hc (by decide)
    rw [List.cons_append]
    unfold takeSign
    split
    · next h => exact absurd (List.cons.inj h).1 hminus
    · next h => exact absurd (List.cons.inj h).1 hplus
    · rfl

theorem Decimal.ofChars?_digits (hne : whole ≠ []) :
    Decimal.ofChars? whole = some ⟨false, digitsValue whole, 0⟩ := by
  have hsign := takeSign_digits hwhole hne []
  have hspan := span_digits hwhole [] (by simp)
  rw [List.append_nil] at hsign hspan
  rw [Decimal.ofChars?, hsign]
  simp only [hspan]
  simp [hne, Decimal.exponentOfChars?]

theorem Decimal.ofChars?_point (hne : whole ≠ []) (hpart : ∀ c ∈ part, c.isDigit = true) :
    Decimal.ofChars? (whole ++ '.' :: part) =
      some ⟨false, digitsValue (whole ++ part), -part.length⟩ := by
  have hsign := takeSign_digits hwhole hne ('.' :: part)
  have hspan := span_digits hwhole ('.' :: part) (by simp)
  have hplaces := span_digits hpart [] (by simp)
  rw [List.append_nil] at hplaces
  rw [Decimal.ofChars?, hsign]
  simp only [hspan, hplaces]
  simp [hne, Decimal.exponentOfChars?]

end

/-! ## Zeros -/

theorem Double.toList_padded (width n : ℕ) :
    (Double.padded width n).toList =
      List.replicate (width - (Nat.toDigits 10 n).length) '0' ++ Nat.toDigits 10 n := by
  have htext : (toString n).toList = Nat.toDigits 10 n := Nat.toList_repr
  have hlength : (toString n).length = (Nat.toDigits 10 n).length := by
    rw [← htext, String.length_toList]
  rw [Double.padded, String.toList_append, String.toList_ofList, htext, hlength]

end StyledMap
