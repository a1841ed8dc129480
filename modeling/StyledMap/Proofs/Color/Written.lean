import Mathlib.Algebra.Order.Round
import Mathlib.Tactic.NormNum
import StyledMap.Proofs.Color.Channels
import StyledMap.Proofs.Decimal
import StyledMap.Proofs.Words

/-! # Colors that are written

In exact arithmetic the text of a color reads as a color with the same text. Bytes are written
whole and an alpha in thousandths; both are the nearest ones, so a number that is written again is
the nearest one to itself.

* `nearestNat_eq_of_lt` and `abs_sub_nearestNat_le`: the nearest natural number to a number, and how
  far it is.
* `number?_thousandths`: an alpha reads as it was written.
* `rounded` and `parse?_toCss`: the color that the text of a color reads as.
* `css_reads_back`: texts of colors and of bytes.

A byte is `1 / 255` apart from the next, and the nearest thousandth is at most `1 / 2000` away. So
an alpha of a byte is nearest to that byte also after it was written.
-/

set_option autoImplicit false

namespace StyledMap

namespace Color

open Arith Exact Text

/-! ## Characters of numbers -/

/-- Whether a character occurs in a number without a sign and without an exponent. -/
def isFigure (c : Char) : Bool :=
  c.isDigit || c == '.'

theorem toNat_of_isFigure {c : Char} (h : isFigure c = true) :
    c.toNat = 46 ∨ 48 ≤ c.toNat ∧ c.toNat ≤ 57 := by
  rw [isFigure, Bool.or_eq_true] at h
  obtain h | h := h
  · right
    simpa [Char.isDigit, UInt32.le_iff_toNat_le] using h
  · left
    rw [beq_iff_eq.1 h]
    rfl

theorem isSeparator_of_isFigure {c : Char} (h : isFigure c = true) : isSeparator c = false := by
  have hn := toNat_of_isFigure h
  have hcomma : c ≠ ',' := by rintro rfl; exact absurd h (by decide)
  have hslash : c ≠ '/' := by rintro rfl; exact absurd h (by decide)
  have hblank : isBlank c = false := by
    simp [isBlank]
    omega
  simp [isSeparator, hcomma, hslash, hblank]

theorem toLower_of_isFigure {c : Char} (h : isFigure c = true) : c.toLower = c := by
  have hn := toNat_of_isFigure h
  have hupper : ¬(c.val ≥ 'A'.val ∧ c.val ≤ 'Z'.val) := by
    simp [UInt32.le_iff_toNat_le]
    omega
  exact dif_neg hupper

/-- A text of at least one figure. -/
structure IsNumeral (cs : List Char) : Prop where
  ne_nil : cs ≠ []
  isFigure : ∀ c ∈ cs, isFigure c = true

theorem isNumeral_toDigits (n : ℕ) : IsNumeral (Nat.toDigits 10 n) where
  ne_nil := Nat.toDigits_ne_nil
  isFigure := by
    intro c hc
    rw [Color.isFigure, isDigit_of_mem_toDigits hc, Bool.true_or]

/-- A numeral is no percentage. -/
theorem IsNumeral.before?_percent {cs : List Char} (h : IsNumeral cs) :
    before? ['%'] cs = none := by
  rw [Option.eq_none_iff_forall_ne_some]
  intro rest hrest
  have hcs := before?_eq_some.1 hrest
  have hmem : '%' ∈ cs := by simp [hcs]
  exact absurd (h.isFigure '%' hmem) (by decide)

theorem IsNumeral.fraction? {α : Type} [Arith α] {cs : List Char} (h : IsNumeral cs) {x : α}
    (hx : number? cs = some x) (whole : ℕ) :
    Color.fraction? whole cs = some (clamp (x / nat whole)) := by
  simp [Color.fraction?, h.before?_percent, hx]

/-! ## Thousandths -/

/-- The three places of a number below a thousand, without the zeros at the end. -/
theorem exists_places {m : ℕ} (hm : m < 1000) :
    ∃ k, (∀ c ∈ dropEnd (· = '0') (Double.padded 3 m).toList, c.isDigit = true) ∧
      (dropEnd (· = '0') (Double.padded 3 m).toList).length + k = 3 ∧
      10 ^ k * digitsValue (dropEnd (· = '0') (Double.padded 3 m).toList) = m := by
  have hcount : (Nat.toDigits 10 m).length ≤ 3 :=
    (Nat.length_toDigits_le_iff (by decide) (by decide)).2 hm
  obtain ⟨k, hk⟩ := dropEnd_append_replicate '0' (Double.padded 3 m).toList
  generalize dropEnd (· = '0') (Double.padded 3 m).toList = places at hk ⊢
  rw [Double.toList_padded] at hk
  refine ⟨k, ?_, ?_, ?_⟩
  · intro c hc
    have hmem : c ∈ places ++ List.replicate k '0' := List.mem_append_left _ hc
    rw [← hk, List.mem_append] at hmem
    obtain hzero | hdigit := hmem
    · rw [List.eq_of_mem_replicate hzero]
      rfl
    · exact isDigit_of_mem_toDigits hdigit
  · have hlength := congrArg List.length hk
    rw [List.length_append, List.length_append, List.length_replicate,
      List.length_replicate] at hlength
    omega
  · have hvalue := congrArg digitsValue hk
    rw [digitsValue_append, digitsValue_append, digitsValue_replicate_zero,
      digitsValue_replicate_zero, digitsValue_toDigits, List.length_replicate] at hvalue
    omega

/-- Zeros at the end of the three places are not written, and a point that no place follows
neither. -/
theorem exists_thousandths (n : ℕ) :
    ∃ places k, (∀ c ∈ places, c.isDigit = true) ∧ places.length + k = 3 ∧
      10 ^ k * digitsValue places = n % 1000 ∧
      (thousandths n).toList = Nat.toDigits 10 (n / 1000) ++
        if places = [] then [] else '.' :: places := by
  obtain ⟨k, hdigits, hlength, hvalue⟩ := exists_places (Nat.mod_lt n (by decide : 1000 > 0))
  refine ⟨_, k, hdigits, hlength, hvalue, ?_⟩
  have hwhole : (toString (n / 1000)).toList = Nat.toDigits 10 (n / 1000) := Nat.toList_repr
  rw [thousandths]
  split
  · next hempty => rw [if_pos (List.isEmpty_iff.1 hempty), List.append_nil, hwhole]
  · next hempty =>
    rw [if_neg (mt List.isEmpty_iff.2 hempty), String.toList_append, String.toList_append,
      hwhole, String.toList_ofList, String.toList_ofList, List.append_assoc,
      List.singleton_append]

theorem isNumeral_thousandths (n : ℕ) : IsNumeral (thousandths n).toList := by
  obtain ⟨places, k, hdigits, -, -, htext⟩ := exists_thousandths n
  have hwhole := isNumeral_toDigits (n / 1000)
  rw [htext]
  constructor
  · simp [hwhole.ne_nil]
  · intro c hc
    obtain hc | hc := List.mem_append.1 hc
    · exact hwhole.isFigure c hc
    · by_cases hempty : places = []
      · simp [hempty] at hc
      · rw [if_neg hempty, List.mem_cons] at hc
        obtain rfl | hc := hc
        · rfl
        · rw [isFigure, hdigits c hc, Bool.true_or]

theorem ofChars?_thousandths (n : ℕ) :
    ∃ digits places k : ℕ, places + k = 3 ∧ digits * 10 ^ k = n ∧
      Decimal.ofChars? (thousandths n).toList = some ⟨false, digits, -places⟩ := by
  obtain ⟨places, k, hdigits, hlength, hvalue, htext⟩ := exists_thousandths n
  have hwhole : ∀ c ∈ Nat.toDigits 10 (n / 1000), c.isDigit = true :=
    fun c hc => isDigit_of_mem_toDigits hc
  have hne : Nat.toDigits 10 (n / 1000) ≠ [] := Nat.toDigits_ne_nil
  have hpower : 10 ^ places.length * 10 ^ k = 1000 := by
    rw [← Nat.pow_add, hlength]
  refine ⟨digitsValue (Nat.toDigits 10 (n / 1000) ++ places), places.length, k, hlength, ?_, ?_⟩
  · have hsplit : 1000 * (n / 1000) + n % 1000 = n := Nat.div_add_mod n 1000
    rw [digitsValue_append, digitsValue_toDigits]
    calc (10 ^ places.length * (n / 1000) + digitsValue places) * 10 ^ k
        = 10 ^ places.length * 10 ^ k * (n / 1000) + 10 ^ k * digitsValue places := by ring
      _ = n := by rw [hpower, hvalue, hsplit]
  · rw [htext]
    by_cases hempty : places = []
    · rw [if_pos hempty, hempty, List.append_nil]
      exact Decimal.ofChars?_digits hwhole hne
    · rw [if_neg hempty]
      exact Decimal.ofChars?_point hwhole hne hdigits

variable {K : Type} [Field K] [LinearOrder K] [FloorRing K] [Powers K]

theorem number?_toDigits (n : ℕ) : (number? (Nat.toDigits 10 n) : Option K) = some n := by
  have hread := Decimal.ofChars?_digits (fun c hc => isDigit_of_mem_toDigits hc)
    (Nat.toDigits_ne_nil (n := n) (b := 10))
  rw [number?, hread, digitsValue_toDigits]
  simp [ofDecimal?, ofDecimal]

theorem channelOfByte_eq (n : UInt8) : (channelOfByte n : K) = n.toNat / 255 :=
  congrArg ((n.toNat : K) / ·) Nat.cast_ofNat

/-! ## Texts of colors -/

/-- The number of thousandths that is written for a channel. -/
def thousandthsOf (x : K) : ℕ :=
  nearestNat (clamp x * nat 1000)

theorem alphaText_eq (x : K) : alphaText x = thousandths (thousandthsOf x) := by
  have hnumber : isNumber (clamp x) = true := beq_self_eq_true (clamp x)
  have hsign : isNegativeZero (clamp x) = false := by
    rw [isNegativeZero, Bool.and_eq_false_imp]
    intro hzero
    -- The reciprocal of zero is zero.
    rw [beq_iff_eq.1 hzero, zero_eq, div_zero]
    exact decide_eq_false (lt_irrefl 0)
  simp [alphaText, hnumber, hsign, thousandthsOf]

/-- The text of a color is a function of four numerals. -/
theorem toCss_eq (c : Color K) :
    c.toCss = functionText "rgba" ([','].intercalate
      [Nat.toDigits 10 c.toBytes.red.toNat, Nat.toDigits 10 c.toBytes.green.toNat,
        Nat.toDigits 10 c.toBytes.blue.toNat, (thousandths (thousandthsOf c.alpha)).toList]) := by
  have hdigits (n : ℕ) : (toString n).toList = Nat.toDigits 10 n := Nat.toList_repr
  rw [← String.toList_inj, functionText, String.toList_ofList, toCss, ← alphaText_eq]
  simp only [String.toList_append, String.toList_intercalate, List.map_cons, List.map_nil, hdigits]
  rfl

theorem IsNumeral.map_toLower {cs : List Char} (h : IsNumeral cs) : cs.map Char.toLower = cs :=
  (List.map_congr_left fun c hc => toLower_of_isFigure (h.isFigure c hc)).trans (List.map_id cs)

theorem map_toLower_intercalate {pieces : List (List Char)} (h : ∀ p ∈ pieces, IsNumeral p) :
    ([','].intercalate pieces).map Char.toLower = [','].intercalate pieces := by
  induction pieces with
  | nil => rfl
  | cons p pieces ih =>
    have hp := (h p List.mem_cons_self).map_toLower
    have hrest := ih fun q hq => h q (List.mem_cons_of_mem p hq)
    cases pieces with
    | nil => rw [List.intercalate_singleton, hp]
    | cons q pieces =>
      rw [List.intercalate_cons_cons, List.map_append, List.map_append, hp, hrest]
      rfl

/-- Numerals that are joined by commas are the arguments of a function. -/
theorem arguments_intercalate {pieces : List (List Char)} (h : ∀ p ∈ pieces, IsNumeral p) :
    arguments ([','].intercalate pieces) = pieces := by
  rw [arguments, map_toLower_intercalate h]
  refine words_intercalate (by decide) fun p hp => ⟨(h p hp).ne_nil, fun c hc => ?_⟩
  exact isSeparator_of_isFigure ((h p hp).isFigure c hc)

/-! ## Reading thousandths -/

variable [IsStrictOrderedRing K]

/-- A number of thousandths reads as it was written. -/
theorem number?_thousandths (n : ℕ) :
    (number? (thousandths n).toList : Option K) = some ((n : K) / 1000) := by
  obtain ⟨digits, places, k, hplaces, rfl, hread⟩ := ofChars?_thousandths n
  have hten : (10 : K) ≠ 0 := by norm_num
  have hpower : (10 : K) ^ places * 10 ^ k = 1000 := by
    rw [← pow_add, hplaces]
    norm_num
  have hvalue : (digits : K) * 10 ^ (-(places : ℤ)) = digits * 10 ^ k / 1000 := by
    rw [zpow_neg, zpow_natCast, ← hpower]
    field_simp
  have hcast : ((digits * 10 ^ k : ℕ) : K) = digits * 10 ^ k := by push_cast; ring
  rw [number?, hread, hcast, ← hvalue]
  rfl

/-! ## Nearest numbers -/

theorem nearestNat_eq_round {x : K} (hx : 0 ≤ x) : ((nearestNat x : ℕ) : ℤ) = round x := by
  have hnonneg : 0 ≤ ⌊x⌋ := Int.floor_nonneg.2 hx
  have hwhole : ((⌊x⌋.toNat : ℕ) : ℤ) = ⌊x⌋ := Int.toNat_of_nonneg hnonneg
  have hcast : ((⌊x⌋.toNat : ℕ) : K) = ⌊x⌋ := by rw [← Int.cast_natCast, hwhole]
  have hlow : (⌊x⌋ : K) ≤ x := Int.floor_le x
  have hhigh : x < ⌊x⌋ + 1 := Int.lt_floor_add_one x
  have hhalf : (one / nat 2 : K) = 1 / 2 := by
    rw [one_eq]
    exact congrArg ((1 : K) / ·) (Nat.cast_ofNat (n := 2))
  have hpart : x - nat (floor x) = x - ⌊x⌋ := congrArg (x - ·) hcast
  symm
  rw [round_eq_iff, nearestNat]
  simp only [hpart, hhalf]
  split
  · next hup =>
    have hup : 1 / 2 ≤ x - ⌊x⌋ := by
      obtain h | h := hup
      · exact h.le
      · exact (beq_iff_eq.1 h).ge
    have hfloor : (((floor x + 1 : ℕ) : ℤ) : K) = ⌊x⌋ + 1 := by
      rw [Int.cast_natCast, Nat.cast_succ]
      exact congrArg (· + 1) hcast
    rw [hfloor]
    exact ⟨by linarith, by linarith⟩
  · next hdown =>
    have hdown : x - ⌊x⌋ < 1 / 2 := by
      refine lt_of_not_ge fun h => hdown ?_
      exact h.lt_or_eq.imp_right fun heq => beq_iff_eq.2 heq.symm
    have hfloor : (((floor x : ℕ) : ℤ) : K) = ⌊x⌋ := by
      rw [Int.cast_natCast]
      exact hcast
    rw [hfloor]
    exact ⟨by linarith, by linarith⟩

theorem nearestNat_eq_of_lt {x : K} (hx : 0 ≤ x) {n : ℕ} (h : |x - n| < 1 / 2) :
    nearestNat x = n := by
  obtain ⟨hlow, hhigh⟩ := abs_lt.1 h
  have hround : round x = (n : ℤ) := by
    rw [round_eq_iff, Int.cast_natCast]
    exact ⟨by linarith, by linarith⟩
  have hnearest := nearestNat_eq_round hx
  rw [hround] at hnearest
  exact_mod_cast hnearest

theorem nearestNat_natCast (n : ℕ) : nearestNat (n : K) = n :=
  nearestNat_eq_of_lt (Nat.cast_nonneg n) (by norm_num)

theorem abs_sub_nearestNat_le {x : K} (hx : 0 ≤ x) : |x - nearestNat x| ≤ 1 / 2 := by
  have hround := abs_sub_round x
  rw [← nearestNat_eq_round hx, Int.cast_natCast] at hround
  exact hround

/-! ## Channels -/

/-- A channel within half a step of a byte is nearest to that byte. -/
theorem byteOfChannel_eq_of_lt {x : K} (hx : x ∈ Set.Icc (0 : K) 1) {n : UInt8}
    (h : |x * 255 - n.toNat| < 1 / 2) : byteOfChannel x = n := by
  have hnonneg : 0 ≤ x * 255 := mul_nonneg hx.1 (by norm_num)
  have hnearest : nearestNat (x * nat 255) = n.toNat := nearestNat_eq_of_lt hnonneg h
  rw [byteOfChannel, clamp_of_mem hx, hnearest, UInt8.ofNat_toNat]

theorem byteOfChannel_channelOfByte (n : UInt8) : byteOfChannel (channelOfByte n : K) = n := by
  have hvalue : (channelOfByte n : K) * 255 - n.toNat = 0 := by
    rw [channelOfByte_eq]
    ring
  refine byteOfChannel_eq_of_lt (channelOfByte_mem n) ?_
  rw [hvalue, abs_zero]
  norm_num

theorem abs_sub_thousandthsOf_le (x : K) : |clamp x * 1000 - thousandthsOf x| ≤ 1 / 2 :=
  abs_sub_nearestNat_le (mul_nonneg (clamp_mem x).1 (by norm_num))

theorem thousandthsOf_le (x : K) : thousandthsOf x ≤ 1000 := by
  have hnear := (abs_le.1 (abs_sub_thousandthsOf_le x)).1
  have hclamp := (clamp_mem x).2
  have hlt : (thousandthsOf x : K) < (1001 : ℕ) := by
    push_cast
    linarith
  exact Nat.lt_succ_iff.1 (Nat.cast_lt.1 hlt)

/-- The channel of a number of thousandths. -/
def channelOfThousandths (m : ℕ) : K :=
  m / 1000

theorem channelOfThousandths_mem {m : ℕ} (hm : m ≤ 1000) :
    (channelOfThousandths m : K) ∈ Set.Icc (0 : K) 1 := by
  have hcast : (m : K) ≤ (1000 : ℕ) := Nat.cast_le.2 hm
  rw [Nat.cast_ofNat] at hcast
  exact ⟨div_nonneg (Nat.cast_nonneg _) (by norm_num), div_le_one_of_le₀ hcast (by norm_num)⟩

theorem thousandthsOf_channelOfThousandths {m : ℕ} (hm : m ≤ 1000) :
    thousandthsOf (channelOfThousandths m : K) = m := by
  have hvalue : (channelOfThousandths m : K) * nat 1000 = m := by
    change (m : K) / 1000 * (1000 : ℕ) = m
    rw [Nat.cast_ofNat]
    field_simp
  rw [thousandthsOf, clamp_of_mem (channelOfThousandths_mem hm), hvalue, nearestNat_natCast]

/-- The nearest thousandth of a byte is at most `1 / 2000` away from it, and the next byte is
`1 / 255` away. -/
theorem byteOfChannel_thousandths (n : UInt8) :
    byteOfChannel (channelOfThousandths (thousandthsOf (channelOfByte n : K)) : K) = n := by
  have hnear := abs_sub_thousandthsOf_le (channelOfByte n : K)
  have hle := thousandthsOf_le (channelOfByte n : K)
  generalize thousandthsOf (channelOfByte n : K) = m at hnear hle ⊢
  rw [clamp_of_mem (channelOfByte_mem n), channelOfByte_eq] at hnear
  obtain ⟨hlow, hhigh⟩ := abs_le.1 hnear
  refine byteOfChannel_eq_of_lt (channelOfThousandths_mem hle) ?_
  rw [channelOfThousandths, abs_lt]
  constructor
  · linarith
  · linarith

/-! ## Colors -/

/-- What the text of a color reads as: the nearest bytes, and the nearest thousandth of alpha. -/
def rounded (c : Color K) : Color K where
  red := channelOfByte c.toBytes.red
  green := channelOfByte c.toBytes.green
  blue := channelOfByte c.toBytes.blue
  alpha := channelOfThousandths (thousandthsOf c.alpha)

theorem fraction?_toDigits (n : UInt8) :
    fraction? 255 (Nat.toDigits 10 n.toNat) = some (channelOfByte n : K) := by
  rw [(isNumeral_toDigits n.toNat).fraction? (number?_toDigits n.toNat)]
  exact congrArg some (clamp_of_mem (channelOfByte_mem n))

theorem fraction?_thousandths {m : ℕ} (hm : m ≤ 1000) :
    fraction? 1 (thousandths m).toList = some (channelOfThousandths m : K) := by
  have hone : (m : K) / 1000 / nat 1 = channelOfThousandths m := by
    change (m : K) / 1000 / (1 : ℕ) = m / 1000
    rw [Nat.cast_one, div_one]
  rw [(isNumeral_thousandths m).fraction? (number?_thousandths m), hone,
    clamp_of_mem (channelOfThousandths_mem hm)]

theorem parse?_toCss (c : Color K) : parse? c.toCss = some c.rounded := by
  have hnumerals : ∀ p ∈ [Nat.toDigits 10 c.toBytes.red.toNat,
      Nat.toDigits 10 c.toBytes.green.toNat, Nat.toDigits 10 c.toBytes.blue.toNat,
      (thousandths (thousandthsOf c.alpha)).toList], IsNumeral p := by
    simp [isNumeral_toDigits, isNumeral_thousandths]
  rw [toCss_eq, parse?_rgb (.inr rfl), arguments_intercalate hnumerals]
  simp [ofRgb?, alpha?, fraction?_toDigits, fraction?_thousandths (thousandthsOf_le _), rounded]

theorem toBytes_rounded (c : Color K) :
    c.rounded.toBytes = { c.toBytes with
      alpha := byteOfChannel (channelOfThousandths (thousandthsOf c.alpha) : K) } := by
  simp [rounded, toBytes, byteOfChannel_channelOfByte]

theorem toCss_rounded (c : Color K) : c.rounded.toCss = c.toCss := by
  have halpha : thousandthsOf c.rounded.alpha = thousandthsOf c.alpha :=
    thousandthsOf_channelOfThousandths (thousandthsOf_le _)
  rw [toCss_eq, toCss_eq, toBytes_rounded, halpha]

theorem toBytes_rounded_ofBytes (b : ColorBytes) : (ofBytes b : Color K).rounded.toBytes = b := by
  rw [toBytes_rounded]
  simp [toBytes, ofBytes, byteOfChannel_channelOfByte, byteOfChannel_thousandths]

/-- The text of any color reads as a color with the same three bytes and the same text. The text
of four bytes reads as a color with these bytes, alpha included. -/
theorem css_reads_back :
    (∀ c : Color K, ∃ d : Color K, parse? c.toCss = some d ∧
      d.toBytes.red = c.toBytes.red ∧ d.toBytes.green = c.toBytes.green ∧
      d.toBytes.blue = c.toBytes.blue ∧ d.toCss = c.toCss) ∧
    ∀ b : ColorBytes, ∃ d : Color K,
      parse? (ofBytes b : Color K).toCss = some d ∧ d.toBytes = b := by
  constructor
  · intro c
    have hbytes := toBytes_rounded c
    refine ⟨c.rounded, parse?_toCss c, ?_, ?_, ?_, toCss_rounded c⟩
    all_goals rw [hbytes]
  · intro b
    exact ⟨(ofBytes b).rounded, parse?_toCss _, toBytes_rounded_ofBytes b⟩

/-- A color that no screen shows, and four bytes of which the last is nearest to `0.471`. -/
theorem css_reads_back_dusk :
    let _ : Powers ℚ := ⟨fun _ _ => 1⟩
    let c : Color ℚ := ⟨-1 / 3, 1 / 2, 7, 5 / 4⟩
    let b : ColorBytes := ⟨18, 52, 86, 120⟩
    c.toCss = "rgba(0,128,255,1)" ∧ (ofBytes b : Color ℚ).toCss = "rgba(18,52,86,0.471)" ∧
      (∃ d : Color ℚ, parse? "rgba(0,128,255,1)" = some d ∧ d.toBytes.green = 128 ∧
        d.toCss = "rgba(0,128,255,1)") ∧
      ∃ d : Color ℚ, parse? "rgba(18,52,86,0.471)" = some d ∧ d.toBytes = b := by
  intro powers c b
  have hc : c.toCss = "rgba(0,128,255,1)" := by decide +kernel
  have hb : (ofBytes b : Color ℚ).toCss = "rgba(18,52,86,0.471)" := by decide +kernel
  have hgreen : c.toBytes.green = 128 := by decide +kernel
  obtain ⟨hcolors, hbytes⟩ := css_reads_back (K := ℚ)
  obtain ⟨d, hd, -, hdgreen, -, hdcss⟩ := hcolors c
  obtain ⟨e, he, hebytes⟩ := hbytes b
  rw [hc] at hd hdcss
  rw [hb] at he
  exact ⟨hc, hb, ⟨d, hd, hdgreen.trans hgreen, hdcss⟩, e, he, hebytes⟩

end Color

end StyledMap
