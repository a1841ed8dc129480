import Mathlib.Data.Rat.Floor
import StyledMap.Color.Css
import StyledMap.Proofs.Exact

/-! # Channels of colors

In exact arithmetic every color that is read has its channels in `[0, 1]`, and so has what two of
them blend to on the way from one to the other.

* `IsNormalized`: the four channels of a color lie in `[0, 1]`.
* `hueChannel_mem` and `isNormalized_ofHsl`: a channel of a hue lies between two levels, and these
  lie in `[0, 1]`. Nothing clamps the channels of `hsl`.
* `parse?_rgb` and `parse?_hsl`: a function whose name is known reads its own arguments.
* `isNormalized_of_parse?`: what is read is normalized, whichever form it has.
* `ofHsl_add_turns` and `parse?_hsl_congr`: whole turns of a hue do not count.
* `isColor_mono`: an arithmetic with more literals has no fewer colors.
* `isNormalized_blend`: blending at a position in `[0, 1]`.
-/

set_option autoImplicit false

namespace StyledMap.Color

/-! ## Levels -/

section

variable {K : Type} [Field K] [LinearOrder K] [IsStrictOrderedRing K]

theorem add_mul_sub_mem {x y t a b : K} (hx : x ∈ Set.Icc a b) (hy : y ∈ Set.Icc a b)
    (ht : t ∈ Set.Icc (0 : K) 1) : x + t * (y - x) ∈ Set.Icc a b := by
  obtain ⟨h0, h1⟩ := ht
  have hsplit : x + t * (y - x) = (1 - t) * x + t * y := by ring
  have h1' : 0 ≤ 1 - t := sub_nonneg.2 h1
  rw [hsplit]
  constructor
  · have hlow : (1 - t) * a + t * a ≤ (1 - t) * x + t * y :=
      add_le_add (mul_le_mul_of_nonneg_left hx.1 h1') (mul_le_mul_of_nonneg_left hy.1 h0)
    linarith
  · have hhigh : (1 - t) * x + t * y ≤ (1 - t) * b + t * b :=
      add_le_add (mul_le_mul_of_nonneg_left hx.2 h1') (mul_le_mul_of_nonneg_left hy.2 h0)
    linarith

/-- A channel that rises in the first sixth of a turn, stays up to the half, and falls again up to
two thirds. -/
theorem trapezoid_mem {p q t : K} (hpq : p ≤ q) (h0 : 0 ≤ t) :
    (if t < 1 / 6 then p + (q - p) * 6 * t
      else if t < 1 / 2 then q
      else if t < 2 / 3 then p + (q - p) * (2 / 3 - t) * 6
      else p) ∈ Set.Icc p q := by
  have hp : p ∈ Set.Icc p q := ⟨le_rfl, hpq⟩
  have hq : q ∈ Set.Icc p q := ⟨hpq, le_rfl⟩
  split
  · next hsixth =>
    have hrise : p + (q - p) * 6 * t = p + 6 * t * (q - p) := by ring
    rw [hrise]
    exact add_mul_sub_mem hp hq ⟨by linarith, by linarith⟩
  · split
    · exact hq
    · split
      · next hhalf hthirds =>
        have hfall : p + (q - p) * (2 / 3 - t) * 6 = p + (2 / 3 - t) * 6 * (q - p) := by ring
        rw [hfall]
        exact add_mul_sub_mem hp hq ⟨by linarith, by linarith⟩
      · exact hp

/-- The two levels between which the channels of a hue lie: `2 * l - q` and `q`. -/
theorem levels_mem {s l : K} (hs : s ∈ Set.Icc (0 : K) 1) (hl : l ∈ Set.Icc (0 : K) 1) :
    let q := if l < 1 / 2 then l * (1 + s) else l + s - l * s
    0 ≤ 2 * l - q ∧ 2 * l - q ≤ q ∧ q ≤ 1 := by
  obtain ⟨hs0, hs1⟩ := hs
  obtain ⟨hl0, hl1⟩ := hl
  have hls : 0 ≤ l * s := mul_nonneg hl0 hs0
  have hls1 : l * s ≤ l := mul_le_of_le_one_right hl0 hs1
  have hrest : 0 ≤ (1 - l) * (1 - s) := mul_nonneg (sub_nonneg.2 hl1) (sub_nonneg.2 hs1)
  have hsat : 0 ≤ (1 - l) * s := mul_nonneg (sub_nonneg.2 hl1) hs0
  intro q
  by_cases hhalf : l < 1 / 2
  · have hq : q = l + l * s := by rw [show q = l * (1 + s) from if_pos hhalf]; ring
    rw [hq]
    exact ⟨by linarith, by linarith, by linarith⟩
  · have hq : q = l + (1 - l) * s := by rw [show q = l + s - l * s from if_neg hhalf]; ring
    rw [hq]
    exact ⟨by linarith, by linarith, by linarith⟩

end

open Arith Text

/-! ## Texts of functions -/

/-- The text of a function, with what stands between its parentheses. -/
def functionText (name : String) (body : List Char) : String :=
  String.ofList (name.toList ++ '(' :: (body ++ [')']))

/-- The arguments between the parentheses of a function. -/
def arguments (body : List Char) : List (List Char) :=
  words isSeparator (body.map Char.toLower)

theorem trimBlanks_eq_self {first last : Char} (hf : isBlank first = false)
    (hl : isBlank last = false) (middle : List Char) :
    trimBlanks (first :: (middle ++ [last])) = first :: (middle ++ [last]) := by
  have hfront : (first :: (middle ++ [last])).dropWhile isBlank = first :: (middle ++ [last]) :=
    List.dropWhile_cons_of_neg (by simp [hf])
  have hreverse : (first :: (middle ++ [last])).reverse = last :: (first :: middle).reverse := by
    simp
  rw [trimBlanks, hfront, dropEnd, hreverse, List.dropWhile_cons_of_neg (by simp [hl]), ← hreverse,
    List.reverse_reverse]

section

variable {α : Type} [Arith α] {name : String}

/-- A function is read in lower case. -/
theorem parse?_functionText
    (hn : (name = "rgb" ∨ name = "rgba") ∨ name = "hsl" ∨ name = "hsla") (body : List Char) :
    (parse? (functionText name body) : Option (Color α)) =
      ofChars? (name.toList ++ '(' :: (body.map Char.toLower ++ [')'])) := by
  have htrim : trimBlanks (name.toList ++ '(' :: (body ++ [')'])) =
      name.toList ++ '(' :: (body ++ [')']) := by
    obtain (rfl | rfl) | rfl | rfl := hn
    · exact trimBlanks_eq_self (by decide) (by decide) ('g' :: 'b' :: '(' :: body)
    · exact trimBlanks_eq_self (by decide) (by decide) ('g' :: 'b' :: 'a' :: '(' :: body)
    · exact trimBlanks_eq_self (by decide) (by decide) ('s' :: 'l' :: '(' :: body)
    · exact trimBlanks_eq_self (by decide) (by decide) ('s' :: 'l' :: 'a' :: '(' :: body)
  have hlower : (name.toList ++ '(' :: (body ++ [')'])).map Char.toLower =
      name.toList ++ '(' :: (body.map Char.toLower ++ [')']) := by
    obtain (rfl | rfl) | rfl | rfl := hn <;> simp
  rw [parse?, functionText, String.toList_ofList, htrim, hlower]

section

variable (hn : name = "rgb" ∨ name = "rgba")

include hn

theorem ofChars?_rgb (body : List Char) :
    (ofChars? (name.toList ++ '(' :: (body ++ [')'])) : Option (Color α)) =
      ofRgb? (words isSeparator body) := by
  have hbody : before? [')'] (body ++ [')']) = some body := before?_eq_some.2 rfl
  have hspan : (name.toList ++ '(' :: (body ++ [')'])).span (· ≠ '(') =
      (name.toList, '(' :: (body ++ [')'])) := by
    obtain rfl | rfl := hn
    · rfl
    · rfl
  obtain rfl | rfl := hn
  all_goals
    unfold ofChars?
    rw [hspan]
    simp only [hbody]
    rfl

theorem parse?_rgb (body : List Char) :
    (parse? (functionText name body) : Option (Color α)) = ofRgb? (arguments body) := by
  rw [parse?_functionText (.inl hn), ofChars?_rgb hn, arguments]

end

variable (hn : name = "hsl" ∨ name = "hsla")

include hn

theorem ofChars?_hsl (body : List Char) :
    (ofChars? (name.toList ++ '(' :: (body ++ [')'])) : Option (Color α)) =
      ofHslArguments? (words isSeparator body) := by
  have hbody : before? [')'] (body ++ [')']) = some body := before?_eq_some.2 rfl
  have hspan : (name.toList ++ '(' :: (body ++ [')'])).span (· ≠ '(') =
      (name.toList, '(' :: (body ++ [')'])) := by
    obtain rfl | rfl := hn
    · rfl
    · rfl
  obtain rfl | rfl := hn
  all_goals
    unfold ofChars?
    rw [hspan]
    simp only [hbody]
    rfl

theorem parse?_hsl (body : List Char) :
    (parse? (functionText name body) : Option (Color α)) = ofHslArguments? (arguments body) := by
  rw [parse?_functionText (.inr hn), ofChars?_hsl hn, arguments]

end

/-! ## Texts that are colors -/

theorem isSome_bind_four {α β γ δ ε : Type} (x : Option α) (y : Option β) (z : Option γ)
    (w : Option δ) (f : α → β → γ → δ → ε) :
    (x.bind fun a => y.bind fun b => z.bind fun c => w.bind fun d => some (f a b c d)).isSome =
      (x.isSome && y.isSome && z.isSome && w.isSome) := by
  cases x <;> cases y <;> cases z <;> cases w <;> rfl

/-- The keywords are the same in every arithmetic. -/
theorem isSome_ofName?_eq {α β : Type} [Arith α] [Arith β] (name : String) :
    (ofName? name : Option (Color β)).isSome = (ofName? name : Option (Color α)).isSome := by
  unfold ofName?
  split
  · rfl
  · rw [Option.isSome_map, Option.isSome_map]

section

variable {α β : Type} [Arith α] [Arith β]
  (hd : ∀ d, (ofDecimal? d : Option α).isSome = true → (ofDecimal? d : Option β).isSome = true)

include hd

theorem isSome_number? {cs : List Char} (h : (number? cs : Option α).isSome = true) :
    (number? cs : Option β).isSome = true := by
  unfold number? at h ⊢
  cases hc : Decimal.ofChars? cs with
  | none => simp [hc] at h
  | some d =>
    rw [hc, Option.bind_some] at h
    exact hd d h

theorem isSome_fraction? {whole : ℕ} {cs : List Char}
    (h : (fraction? whole cs : Option α).isSome = true) :
    (fraction? whole cs : Option β).isSome = true := by
  unfold fraction? at h ⊢
  split at h
  · rw [Option.isSome_map] at h ⊢
    exact isSome_number? hd h
  · rw [Option.isSome_map] at h ⊢
    exact isSome_number? hd h

theorem isSome_alpha? {arguments : List (List Char)}
    (h : (alpha? arguments : Option α).isSome = true) :
    (alpha? arguments : Option β).isSome = true := by
  match arguments with
  | [] => rfl
  | [a] => exact isSome_fraction? hd h
  | _ :: _ :: _ => simp [alpha?] at h

theorem isSome_ofRgb? {arguments : List (List Char)}
    (h : (ofRgb? arguments : Option (Color α)).isSome = true) :
    (ofRgb? arguments : Option (Color β)).isSome = true := by
  match arguments with
  | [] | [_] | [_, _] => simp [ofRgb?] at h
  | r :: g :: b :: rest =>
    have hparts := (isSome_bind_four _ _ _ _ _).symm.trans h
    simp only [Bool.and_eq_true] at hparts
    obtain ⟨⟨⟨hr, hg⟩, hb⟩, ha⟩ := hparts
    refine (isSome_bind_four _ _ _ _ _).trans ?_
    rw [isSome_fraction? hd hr, isSome_fraction? hd hg, isSome_fraction? hd hb,
      isSome_alpha? hd ha]
    rfl

theorem isSome_ofHslArguments? {arguments : List (List Char)}
    (h : (ofHslArguments? arguments : Option (Color α)).isSome = true) :
    (ofHslArguments? arguments : Option (Color β)).isSome = true := by
  match arguments with
  | [] | [_] | [_, _] => simp [ofHslArguments?] at h
  | hue :: s :: l :: rest =>
    have hparts := (isSome_bind_four _ _ _ _ _).symm.trans h
    simp only [Bool.and_eq_true] at hparts
    obtain ⟨⟨⟨hh, hs⟩, hl⟩, ha⟩ := hparts
    refine (isSome_bind_four _ _ _ _ _).trans ?_
    rw [isSome_number? hd hh, isSome_fraction? hd hs, isSome_fraction? hd hl, isSome_alpha? hd ha]
    rfl

theorem isSome_ofChars? {cs : List Char} (h : (ofChars? cs : Option (Color α)).isSome = true) :
    (ofChars? cs : Option (Color β)).isSome = true := by
  unfold ofChars? at h ⊢
  split at h
  · rw [ofHex?, Option.isSome_map] at h ⊢
    exact h
  · split at h
    · next name after _ =>
      split at h
      · simp at h
      · next body _ =>
        simp only at h ⊢
        split at h
        · exact isSome_ofRgb? hd h
        · exact isSome_ofRgb? hd h
        · exact isSome_ofHslArguments? hd h
        · exact isSome_ofHslArguments? hd h
        · simp at h
    · exact (isSome_ofName?_eq _).trans h

/-- An arithmetic with more literals has no fewer colors. -/
theorem isColor_mono {text : String} (h : isColor α text = true) : isColor β text = true :=
  isSome_ofChars? hd h

end

open Exact

variable {K : Type} [Field K] [LinearOrder K] [FloorRing K]

/-! ## Normalized colors -/

/-- The four channels of a color lie in `[0, 1]`. -/
structure IsNormalized (c : Color K) : Prop where
  red : c.red ∈ Set.Icc (0 : K) 1
  green : c.green ∈ Set.Icc (0 : K) 1
  blue : c.blue ∈ Set.Icc (0 : K) 1
  alpha : c.alpha ∈ Set.Icc (0 : K) 1

variable [Powers K]

theorem fraction?_mem {whole : ℕ} {cs : List Char} {x : K} (h : fraction? whole cs = some x) :
    x ∈ Set.Icc (0 : K) 1 := by
  unfold fraction? at h
  split at h
  · obtain ⟨y, -, rfl⟩ := Option.map_eq_some_iff.1 h
    exact clamp_mem _
  · obtain ⟨y, -, rfl⟩ := Option.map_eq_some_iff.1 h
    exact clamp_mem _

theorem alpha?_mem {arguments : List (List Char)} {x : K} (h : alpha? arguments = some x) :
    x ∈ Set.Icc (0 : K) 1 := by
  unfold alpha? at h
  split at h
  · obtain rfl := Option.some.inj h
    rw [one_eq]
    exact ⟨zero_le_one, le_rfl⟩
  · exact fraction?_mem h
  · simp at h

theorem isNormalized_of_ofRgb? {arguments : List (List Char)} {c : Color K}
    (h : ofRgb? arguments = some c) : c.IsNormalized := by
  unfold ofRgb? at h
  split at h
  · obtain ⟨r, hr, h⟩ := Option.bind_eq_some_iff.1 h
    obtain ⟨g, hg, h⟩ := Option.bind_eq_some_iff.1 h
    obtain ⟨b, hb, h⟩ := Option.bind_eq_some_iff.1 h
    obtain ⟨a, ha, h⟩ := Option.bind_eq_some_iff.1 h
    obtain rfl := Option.some.inj h
    exact ⟨fraction?_mem hr, fraction?_mem hg, fraction?_mem hb, alpha?_mem ha⟩
  · simp at h

variable [IsStrictOrderedRing K]

theorem channelOfByte_mem (n : UInt8) : (channelOfByte n : K) ∈ Set.Icc (0 : K) 1 := by
  have hn : n.toNat ≤ 255 := Nat.le_of_lt_succ n.toNat_lt
  have hle : (n.toNat : K) ≤ (255 : ℕ) := Nat.cast_le.2 hn
  change (n.toNat : K) / (255 : ℕ) ∈ Set.Icc (0 : K) 1
  exact ⟨div_nonneg (Nat.cast_nonneg _) (Nat.cast_nonneg _), div_le_one_of_le₀ hle (Nat.cast_nonneg _)⟩

theorem isNormalized_ofBytes (b : ColorBytes) : (ofBytes b : Color K).IsNormalized :=
  ⟨channelOfByte_mem _, channelOfByte_mem _, channelOfByte_mem _, channelOfByte_mem _⟩

/-! ## Hues -/

theorem hueChannel_mem {p q : K} (hpq : p ≤ q) (t : K) : hueChannel p q t ∈ Set.Icc p q := by
  have h0 : 0 ≤ wrap t 1 := by
    rw [wrap_eq t one_pos]
    exact mul_nonneg (Nat.cast_nonneg _) (Int.fract_nonneg _)
  unfold hueChannel
  simp only [one_eq]
  exact trapezoid_mem hpq h0

theorem isNormalized_ofHsl {s l a : K} (hs : s ∈ Set.Icc (0 : K) 1) (hl : l ∈ Set.Icc (0 : K) 1)
    (ha : a ∈ Set.Icc (0 : K) 1) (h : K) : (ofHsl h s l a).IsNormalized := by
  unfold ofHsl
  split
  · exact ⟨hl, hl, hl, ha⟩
  · have hlevels := levels_mem hs hl
    simp only [one_eq]
    obtain ⟨h0, hpq, h1⟩ := hlevels
    have hmem (t : K) := hueChannel_mem hpq t
    have hsub := Set.Icc_subset_Icc h0 h1
    exact ⟨hsub (hmem _), hsub (hmem _), hsub (hmem _), ha⟩

theorem ofHsl_add_turns (h s l a : K) (k : ℤ) : ofHsl (h + 360 * k) s l a = ofHsl h s l a := by
  have hwrap : wrap (h + 360 * k) 360 = wrap h 360 := wrap_add_turns h (by decide) k
  rw [ofHsl, ofHsl, hwrap]

/-- The hue that an argument writes, in degrees. -/
def hue? (argument : List Char) : Option K :=
  number? (dropDegrees argument.reverse).reverse

theorem isNormalized_of_ofHslArguments? {arguments : List (List Char)} {c : Color K}
    (h : ofHslArguments? arguments = some c) : c.IsNormalized := by
  unfold ofHslArguments? at h
  split at h
  · obtain ⟨hue, -, h⟩ := Option.bind_eq_some_iff.1 h
    obtain ⟨s, hs, h⟩ := Option.bind_eq_some_iff.1 h
    obtain ⟨l, hl, h⟩ := Option.bind_eq_some_iff.1 h
    obtain ⟨a, ha, h⟩ := Option.bind_eq_some_iff.1 h
    obtain rfl := Option.some.inj h
    exact isNormalized_ofHsl (fraction?_mem hs) (fraction?_mem hl) (alpha?_mem ha) hue
  · simp at h

theorem ofHslArguments?_congr {argument argument' : List Char} {h : K} {k : ℤ}
    (hh : hue? argument = some h) (hh' : hue? argument' = some (h + 360 * k))
    (rest : List (List Char)) :
    (ofHslArguments? (argument :: rest) : Option (Color K)) =
      ofHslArguments? (argument' :: rest) := by
  match rest with
  | [] | [_] => rfl
  | s :: l :: rest =>
    change (hue? argument).bind _ = (hue? argument').bind _
    rw [hh, hh', Option.bind_some, Option.bind_some]
    simp only [ofHsl_add_turns]

/-! ## Texts -/

theorem isNormalized_of_ofName? {name : String} {c : Color K} (h : ofName? name = some c) :
    c.IsNormalized := by
  unfold ofName? at h
  split at h
  · obtain rfl := Option.some.inj h
    exact isNormalized_ofBytes _
  · obtain ⟨n, -, rfl⟩ := Option.map_eq_some_iff.1 h
    exact isNormalized_ofBytes _

theorem isNormalized_of_ofChars? {cs : List Char} {c : Color K} (h : ofChars? cs = some c) :
    c.IsNormalized := by
  unfold ofChars? at h
  split at h
  · obtain ⟨b, -, rfl⟩ := Option.map_eq_some_iff.1 h
    exact isNormalized_ofBytes b
  · split at h
    · split at h
      · simp at h
      · simp only at h
        split at h
        · exact isNormalized_of_ofRgb? h
        · exact isNormalized_of_ofRgb? h
        · exact isNormalized_of_ofHslArguments? h
        · exact isNormalized_of_ofHslArguments? h
        · simp at h
    · exact isNormalized_of_ofName? h

theorem isNormalized_of_parse? {text : String} {c : Color K} (h : parse? text = some c) :
    c.IsNormalized :=
  isNormalized_of_ofChars? h

theorem parse?_hsl_congr {name : String} (hn : name = "hsl" ∨ name = "hsla")
    {body body' : List Char} {argument argument' : List Char} {rest : List (List Char)} {h : K}
    {k : ℤ} (hb : arguments body = argument :: rest) (hb' : arguments body' = argument' :: rest)
    (hh : hue? argument = some h) (hh' : hue? argument' = some (h + 360 * k)) :
    (parse? (functionText name body) : Option (Color K)) = parse? (functionText name body') := by
  rw [parse?_hsl hn, parse?_hsl hn, hb, hb', ofHslArguments?_congr hh hh']

/-! ## Blending -/

theorem isNormalized_blend {c d : Color K} (hc : c.IsNormalized) (hd : d.IsNormalized) {t : K}
    (ht : t ∈ Set.Icc (0 : K) 1) : (c.blend t d).IsNormalized :=
  ⟨add_mul_sub_mem hc.red hd.red ht, add_mul_sub_mem hc.green hd.green ht,
    add_mul_sub_mem hc.blue hd.blue ht, add_mul_sub_mem hc.alpha hd.alpha ht⟩

/-- Every text that is read as a color, as every text is that is one in doubles, has a normalized
color. The hues `h` and `h + 360 * k` give the same color, if any. On the way from one normalized
color to another all colors are normalized. -/
theorem channels_normalized :
    (∀ (text : String) (c : Color K), parse? text = some c → c.IsNormalized) ∧
    (∀ text : String, isColor Float text = true →
      ∃ c : Color K, parse? text = some c ∧ c.IsNormalized) ∧
    (∀ name : String, name = "hsl" ∨ name = "hsla" →
      ∀ (body body' argument argument' : List Char) (rest : List (List Char)) (h : K) (k : ℤ),
        arguments body = argument :: rest → arguments body' = argument' :: rest →
        hue? argument = some h → hue? argument' = some (h + 360 * k) →
        (parse? (functionText name body) : Option (Color K)) =
          parse? (functionText name body')) ∧
    ∀ c d : Color K, c.IsNormalized → d.IsNormalized →
      ∀ t ∈ Set.Icc (0 : K) 1, (c.blend t d).IsNormalized := by
  refine ⟨fun text c h => isNormalized_of_parse? h, fun text h => ?_, ?_, ?_⟩
  · have hcolor : isColor K text = true := isColor_mono (fun _ _ => rfl) h
    obtain ⟨c, hc⟩ := Option.isSome_iff_exists.1 hcolor
    exact ⟨c, hc, isNormalized_of_parse? hc⟩
  · intro name hn body body' argument argument' rest h k hb hb' hh hh'
    exact parse?_hsl_congr hn hb hb' hh hh'
  · intro c d hc hd t ht
    exact isNormalized_blend hc hd ht

/-- A hue below zero and more saturation than there is, and a color of hexadecimal digits, in
rational numbers. -/
theorem channels_normalized_orchid :
    let _ : Powers ℚ := ⟨fun _ _ => 1⟩
    let body : List Char := "-59.5DEG, 120%, 75% / .5".toList
    let turned : List Char := "1020.5deg 120%,75%/.5".toList
    ∃ c d : Color ℚ, parse? (functionText "hsl" body) = some c ∧
      parse? (functionText "hsl" turned) = some c ∧ c.IsNormalized ∧
      parse? " #F80c" = some d ∧ d.IsNormalized ∧ (c.blend (1 / 3) d).IsNormalized := by
  intro powers body turned
  obtain ⟨hread, hdouble, hhue, hblend⟩ := channels_normalized (K := ℚ)
  have hh : (hue? "-59.5deg".toList : Option ℚ) = some (ofDecimal ⟨true, 595, -1⟩) := rfl
  have hh' : (hue? "1020.5deg".toList : Option ℚ) = some (ofDecimal ⟨false, 10205, -1⟩) := rfl
  have hturn : (ofDecimal ⟨false, 10205, -1⟩ : ℚ) = ofDecimal ⟨true, 595, -1⟩ + 360 * (3 : ℤ) := by
    norm_num [ofDecimal]
  rw [hturn] at hh'
  have hsame := hhue "hsl" (.inl rfl) body turned "-59.5deg".toList "1020.5deg".toList
    ["120%".toList, "75%".toList, ".5".toList] _ 3 rfl rfl hh hh'
  obtain ⟨c, hc, hcn⟩ := hdouble (functionText "hsl" body) (by decide)
  obtain ⟨d, hd, hdn⟩ := hdouble " #F80c" (by decide)
  exact ⟨c, d, hc, hsame ▸ hc, hread _ c hc, hd, hdn, hblend c d hcn hdn (1 / 3) (by norm_num)⟩

end StyledMap.Color
