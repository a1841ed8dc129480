import Mathlib.Data.List.Forall2
import StyledMap.Proofs.Color.Channels
import StyledMap.Proofs.Words

/-! # Spellings of one color

A color may be written in many ways. Neither the case of letters nor blanks around a text count. The
arguments of a function may be kept apart by any separators, the two names of a function mean the
same, and a short hexadecimal form stands for the long one with every digit doubled.

* `IsCaseOf`: a character that differs from another at most in the case of a letter.
* `parse?_eq_ofChars?`: a text may be put in lower case before it is trimmed.
* `arguments_of_spells`: a function reads the words between its parentheses.
* `bytesOfDigits?_doubled`: a short form has the bytes of the long one.
* `spellings_read_alike`: all of this in any arithmetic.

Trimming and splitting go by what a character is, blank or separator, and its case is no part of
that. So each of them may come before or after the change to lower case.
-/

set_option autoImplicit false

namespace StyledMap.Color

open Arith Text

/-! ## Cases of letters -/

/-- A character that differs from another at most in the case of a letter. -/
def IsCaseOf (c d : Char) : Prop :=
  d = c ∨ d = c.toLower ∨ d = c.toUpper

instance : DecidableRel IsCaseOf := fun c d =>
  inferInstanceAs (Decidable (d = c ∨ d = c.toLower ∨ d = c.toUpper))

theorem forall_ascii {P : Char → Prop} (h : ∀ n < 128, P (Char.ofNat n)) {c : Char}
    (hc : c.toNat < 128) : P c := by
  have hn := h c.toNat hc
  rwa [Char.ofNat_toNat] at hn

theorem toLower_of_le {c : Char} (h : 128 ≤ c.toNat) : c.toLower = c := by
  have hletter : ¬(c.val ≥ 'A'.val ∧ c.val ≤ 'Z'.val) := by
    simp [UInt32.le_iff_toNat_le]
    omega
  exact dif_neg hletter

theorem toUpper_of_le {c : Char} (h : 128 ≤ c.toNat) : c.toUpper = c := by
  have hletter : ¬('a'.val ≤ c.val ∧ c.val ≤ 'z'.val) := by
    simp [UInt32.le_iff_toNat_le]
    omega
  exact dif_neg hletter

theorem toLower_toLower (c : Char) : c.toLower.toLower = c.toLower := by
  obtain hc | hc := Nat.lt_or_ge c.toNat 128
  · exact forall_ascii (P := fun c => c.toLower.toLower = c.toLower) (by decide +kernel) hc
  · rw [toLower_of_le hc, toLower_of_le hc]

theorem toLower_toUpper (c : Char) : c.toUpper.toLower = c.toLower := by
  obtain hc | hc := Nat.lt_or_ge c.toNat 128
  · exact forall_ascii (P := fun c => c.toUpper.toLower = c.toLower) (by decide +kernel) hc
  · rw [toUpper_of_le hc]

theorem isBlank_toLower (c : Char) : isBlank c.toLower = isBlank c := by
  obtain hc | hc := Nat.lt_or_ge c.toNat 128
  · exact forall_ascii (P := fun c => isBlank c.toLower = isBlank c) (by decide +kernel) hc
  · rw [toLower_of_le hc]

theorem isSeparator_toLower (c : Char) : isSeparator c.toLower = isSeparator c := by
  obtain hc | hc := Nat.lt_or_ge c.toNat 128
  · exact forall_ascii (P := fun c => isSeparator c.toLower = isSeparator c) (by decide +kernel) hc
  · rw [toLower_of_le hc]

theorem IsCaseOf.toLower_eq {c d : Char} (h : IsCaseOf c d) : d.toLower = c.toLower := by
  obtain rfl | rfl | rfl := h
  · rfl
  · exact toLower_toLower c
  · exact toLower_toUpper c

theorem map_toLower_eq {cs ds : List Char} (h : List.Forall₂ IsCaseOf cs ds) :
    ds.map Char.toLower = cs.map Char.toLower := by
  induction h with
  | nil => rfl
  | cons hc _ ih => rw [List.map_cons, List.map_cons, hc.toLower_eq, ih]

/-! ## Whole texts -/

section

variable {α : Type} [Arith α]

/-- A text may be put in lower case before it is trimmed. -/
theorem parse?_eq_ofChars? (text : String) :
    (parse? text : Option (Color α)) = ofChars? (trimBlanks (text.toList.map Char.toLower)) := by
  rw [parse?, trimBlanks_map isBlank_toLower]

theorem parse?_of_cases {text other : String}
    (h : List.Forall₂ IsCaseOf text.toList other.toList) :
    (parse? other : Option (Color α)) = parse? text := by
  rw [parse?_eq_ofChars?, parse?_eq_ofChars?, map_toLower_eq h]

theorem parse?_of_blanks {front back : String} (hf : IsGap isBlank front.toList)
    (hb : IsGap isBlank back.toList) (text : String) :
    (parse? (front ++ text ++ back) : Option (Color α)) = parse? text := by
  rw [parse?, String.toList_append, String.toList_append, trimBlanks_append hf hb, parse?]

/-! ## Functions -/

/-- A function reads the words between its parentheses, in lower case. -/
theorem arguments_of_spells {tokens : List (List Char)} {body : List Char}
    (h : Spells isSeparator tokens body) :
    arguments body = tokens.map (List.map Char.toLower) := by
  rw [arguments, words_map isSeparator_toLower, words_of_spells h]

theorem parse?_rgb_of_spells {tokens : List (List Char)} {body body' : List Char}
    (h : Spells isSeparator tokens body) (h' : Spells isSeparator tokens body')
    {name name' : String} (hn : name = "rgb" ∨ name = "rgba")
    (hn' : name' = "rgb" ∨ name' = "rgba") :
    (parse? (functionText name body) : Option (Color α)) = parse? (functionText name' body') := by
  rw [parse?_rgb hn, parse?_rgb hn', arguments_of_spells h, arguments_of_spells h']

theorem parse?_hsl_of_spells {tokens : List (List Char)} {body body' : List Char}
    (h : Spells isSeparator tokens body) (h' : Spells isSeparator tokens body')
    {name name' : String} (hn : name = "hsl" ∨ name = "hsla")
    (hn' : name' = "hsl" ∨ name' = "hsla") :
    (parse? (functionText name body) : Option (Color α)) = parse? (functionText name' body') := by
  rw [parse?_hsl hn, parse?_hsl hn', arguments_of_spells h, arguments_of_spells h']

/-! ## Hexadecimal forms -/

/-- The hexadecimal digits in both cases. -/
def hexDigits : List Char :=
  "0123456789abcdefABCDEF".toList

/-- The text of a hexadecimal form. -/
def hexText (digits : List Char) : String :=
  String.ofList ('#' :: digits)

def doubled {β : Type} (xs : List β) : List β :=
  xs.flatMap fun x => [x, x]

theorem exists_hexDigit? {c : Char} (h : c ∈ hexDigits) : ∃ n, hexDigit? c.toLower = some n := by
  have hall : hexDigits.all (fun c => (hexDigit? c.toLower).isSome) = true := by decide
  exact Option.isSome_iff_exists.1 (List.all_eq_true.1 hall c h)

theorem isBlank_of_mem_hexDigits {c : Char} (h : c ∈ hexDigits) : isBlank c = false := by
  have hall : hexDigits.all (fun c => !isBlank c) = true := by decide
  simpa using List.all_eq_true.1 hall c h

theorem parse?_hexText {digits : List Char} (h : ∀ c ∈ digits, c ∈ hexDigits) :
    (parse? (hexText digits) : Option (Color α)) = ofHex? (digits.map Char.toLower) := by
  have htrim : trimBlanks ('#' :: digits) = '#' :: digits := by
    refine trimBlanks_of_forall fun c hc => ?_
    obtain rfl | hc := List.mem_cons.1 hc
    · rfl
    · exact isBlank_of_mem_hexDigits (h c hc)
  rw [parse?, hexText, String.toList_ofList, htrim]
  rfl

/-- Digits have numbers, and doubled digits the same numbers doubled. -/
theorem exists_mapM_hexDigit? {digits : List Char} (h : ∀ c ∈ digits, c ∈ hexDigits) :
    ∃ ns, ns.length = digits.length ∧
      (digits.map Char.toLower).mapM hexDigit? = some ns ∧
      ((doubled digits).map Char.toLower).mapM hexDigit? = some (doubled ns) := by
  induction digits with
  | nil => exact ⟨[], rfl, rfl, rfl⟩
  | cons c digits ih =>
    obtain ⟨n, hn⟩ := exists_hexDigit? (h c List.mem_cons_self)
    obtain ⟨ns, hlength, hshort, hlong⟩ := ih fun d hd => h d (List.mem_cons_of_mem c hd)
    refine ⟨n :: ns, ?_, ?_, ?_⟩
    · rw [List.length_cons, List.length_cons, hlength]
    · simp [hn, hshort]
    · simp only [doubled] at hlong
      simp [doubled, hn, hlong]

theorem hexByte_self (n : Nat) : hexByte n n = shortByte n := by
  have hsum : 16 * n + n = 17 * n := by omega
  rw [hexByte, shortByte, hsum]

/-- A short form has the bytes of the long one. -/
theorem bytesOfDigits?_doubled {ns : List Nat} (h : ns.length = 3 ∨ ns.length = 4) :
    ∃ bytes, bytesOfDigits? ns = some bytes ∧ bytesOfDigits? (doubled ns) = some bytes := by
  match ns, h with
  | [r, g, b], _ =>
    exact ⟨_, rfl, by simp [doubled, bytesOfDigits?, hexByte_self]⟩
  | [r, g, b, a], _ =>
    exact ⟨_, rfl, by simp [doubled, bytesOfDigits?, hexByte_self]⟩

theorem parse?_hexText_doubled {digits : List Char} (h : ∀ c ∈ digits, c ∈ hexDigits)
    (hlength : digits.length = 3 ∨ digits.length = 4) :
    ∃ color : Color α, parse? (hexText digits) = some color ∧
      parse? (hexText (doubled digits)) = some color := by
  obtain ⟨ns, hns, hshort, hlong⟩ := exists_mapM_hexDigit? h
  rw [← hns] at hlength
  obtain ⟨bytes, hbytes, hdoubled⟩ := bytesOfDigits?_doubled hlength
  have hmem : ∀ c ∈ doubled digits, c ∈ hexDigits := by
    intro c hc
    obtain ⟨d, hd, hcd⟩ := List.mem_flatMap.1 hc
    simp at hcd
    exact hcd ▸ h d hd
  refine ⟨ofBytes bytes, ?_, ?_⟩
  · rw [parse?_hexText h, ofHex?, hshort, Option.bind_some, hbytes, Option.map_some]
  · rw [parse?_hexText hmem, ofHex?, hlong, Option.bind_some, hdoubled, Option.map_some]

/-! ## All spellings -/

/-- A text reads as it does in any other case of its letters, and with any blanks around it. A
function with the same arguments reads alike, whichever separators keep them apart and whichever of
its two names it has. Three or four hexadecimal digits read as a color, and so do twice as many with
each of them doubled. -/
theorem spellings_read_alike :
    (∀ text other : String, List.Forall₂ IsCaseOf text.toList other.toList →
      (parse? other : Option (Color α)) = parse? text) ∧
    (∀ front text back : String, IsGap isBlank front.toList → IsGap isBlank back.toList →
      (parse? (front ++ text ++ back) : Option (Color α)) = parse? text) ∧
    (∀ (tokens : List (List Char)) (body body' : List Char),
      Spells isSeparator tokens body → Spells isSeparator tokens body' →
      (∀ name ∈ ["rgb", "rgba"], ∀ name' ∈ ["rgb", "rgba"],
        (parse? (functionText name body) : Option (Color α)) =
          parse? (functionText name' body')) ∧
      ∀ name ∈ ["hsl", "hsla"], ∀ name' ∈ ["hsl", "hsla"],
        (parse? (functionText name body) : Option (Color α)) =
          parse? (functionText name' body')) ∧
    ∀ digits : List Char, (∀ c ∈ digits, c ∈ hexDigits) →
      digits.length = 3 ∨ digits.length = 4 →
      ∃ color : Color α, parse? (hexText digits) = some color ∧
        parse? (hexText (doubled digits)) = some color := by
  have hpair {a b name : String} (h : name ∈ [a, b]) : name = a ∨ name = b := by simpa using h
  refine ⟨fun text other h => parse?_of_cases h, fun front text back hf hb => ?_, ?_, ?_⟩
  · exact parse?_of_blanks hf hb text
  · intro tokens body body' h h'
    constructor
    · intro name hn name' hn'
      exact parse?_rgb_of_spells h h' (hpair hn) (hpair hn')
    · intro name hn name' hn'
      exact parse?_hsl_of_spells h h' (hpair hn) (hpair hn')
  · intro digits h hlength
    exact parse?_hexText_doubled h hlength

end

/-- A keyword in capitals and between blanks, two functions with other separators and under their
other names, and a short form in both cases. -/
theorem spellings_read_alike_steelBlue :
    (parse? "STEELblue" : Option (Color Float)) = parse? "SteelBlue" ∧
    (parse? ("\t" ++ "SteelBlue" ++ " \u3000") : Option (Color Float)) = parse? "SteelBlue" ∧
    (parse? (functionText "rgb" "/10%,, 20% 30%".toList) : Option (Color Float)) =
      parse? (functionText "rgba" "10%\t20%/30%,".toList) ∧
    (parse? (functionText "hsla" "120DEG 50% 50% / .5".toList) : Option (Color Float)) =
      parse? (functionText "hsl" " 120DEG,50%,50%,.5".toList) ∧
    ∃ color : Color Float, parse? "#1Ef" = some color ∧ parse? "#11EEff" = some color := by
  obtain ⟨hcases, hblanks, hfunctions, hdigits⟩ := spellings_read_alike (α := Float)
  have hwords (tokens : List (List Char)) (body : String)
      (h : words isSeparator body.toList = tokens) : Spells isSeparator tokens body.toList :=
    words_eq_iff.1 h
  have hrgb := hfunctions ["10%".toList, "20%".toList, "30%".toList] _ _
    (hwords _ "/10%,, 20% 30%" rfl) (hwords _ "10%\t20%/30%," rfl)
  have hhsl := hfunctions ["120DEG".toList, "50%".toList, "50%".toList, ".5".toList] _ _
    (hwords _ "120DEG 50% 50% / .5" rfl) (hwords _ " 120DEG,50%,50%,.5" rfl)
  refine ⟨hcases "SteelBlue" "STEELblue" (by decide), ?_, ?_, ?_, ?_⟩
  · exact hblanks "\t" "SteelBlue" " \u3000" (by simp [IsGap]; decide) (by simp [IsGap]; decide)
  · exact hrgb.1 "rgb" (by decide) "rgba" (by decide)
  · exact hhsl.2 "hsla" (by decide) "hsl" (by decide)
  · have hdigit : "1Ef".toList ⊆ hexDigits := by decide
    exact hdigits "1Ef".toList (fun c hc => hdigit hc) (by decide)

end StyledMap.Color
