import StyledMap.Color.Basic
import StyledMap.Color.Names
import StyledMap.Double.Text
import StyledMap.Text.Affix
import StyledMap.Text.Blank
import StyledMap.Text.Hex

/-! # Colors as CSS text

* `Color.parse?` reads a hexadecimal form with three, four, six or eight digits, the functions
  `rgb`, `rgba`, `hsl` and `hsla`, and the color keywords. Case and blanks around the text do not
  matter; arguments are separated by any mix of commas, slashes and blanks.
* `Color.toCss` writes `rgba(r,g,b,a)` with byte channels and alpha in thousandths.

Channels of numbers and percentages are clamped to `[0, 1]`, and a hue counts modulo one turn.
-/

set_option autoImplicit false

namespace StyledMap.Color

variable {α : Type} [Arith α]
open Arith Text

/-! ## Hexadecimal forms -/

def hexByte (high low : Nat) : UInt8 := UInt8.ofNat (16 * high + low)

/-- The byte of one digit in a short form; the highest digit is the highest byte. -/
def shortByte (digit : Nat) : UInt8 := UInt8.ofNat (17 * digit)

/-- The bytes of hexadecimal digits, each of one digit or of two. -/
def bytesOfDigits? : List Nat → Option ColorBytes
  | [r, g, b] => some ⟨shortByte r, shortByte g, shortByte b, 255⟩
  | [r, g, b, a] => some ⟨shortByte r, shortByte g, shortByte b, shortByte a⟩
  | [r, r', g, g', b, b'] => some ⟨hexByte r r', hexByte g g', hexByte b b', 255⟩
  | [r, r', g, g', b, b', a, a'] =>
    some ⟨hexByte r r', hexByte g g', hexByte b b', hexByte a a'⟩
  | _ => none

def ofHex? (cs : List Char) : Option (Color α) :=
  ((cs.mapM hexDigit?).bind bytesOfDigits?).map ofBytes

/-! ## Functional forms -/

def isSeparator (c : Char) : Bool :=
  c == ',' || c == '/' || isBlank c

def number? (cs : List Char) : Option α :=
  (Decimal.ofChars? cs).bind ofDecimal?

/-- A number as a part of `whole`, or a percentage, clamped to `[0, 1]`. -/
def fraction? (whole : Nat) (cs : List Char) : Option α :=
  match before? ['%'] cs with
  | some percentage => (number? percentage).map fun x => clamp (x / nat 100)
  | none => (number? cs).map fun x => clamp (x / nat whole)

/-- The optional fourth argument. -/
def alpha? : List (List Char) → Option α
  | [] => some one
  | [a] => fraction? 1 a
  | _ => none

/-- Reads the arguments of `rgb`. -/
def ofRgb? : List (List Char) → Option (Color α)
  | r :: g :: b :: rest => do
    return ⟨← fraction? 255 r, ← fraction? 255 g, ← fraction? 255 b, ← alpha? rest⟩
  | _ => none

/-- Drops the unit of degrees from the end of a reversed text, as often as it stands there. -/
def dropDegrees : List Char → List Char
  | 'g' :: 'e' :: 'd' :: rest => dropDegrees rest
  | cs => cs

/-- One channel of a hue: `t` turns away from red, between the levels `p` and `q`. -/
def hueChannel (p q t : α) : α :=
  let t := wrap t 1
  if t < one / nat 6 then p + (q - p) * nat 6 * t
  else if t < one / nat 2 then q
  else if t < nat 2 / nat 3 then p + (q - p) * (nat 2 / nat 3 - t) * nat 6
  else p

def ofHsl (hue saturation lightness alpha : α) : Color α :=
  let h := wrap hue 360 / nat 360
  if saturation == zero then ⟨lightness, lightness, lightness, alpha⟩
  else
    let q := if lightness < one / nat 2 then lightness * (one + saturation)
      else lightness + saturation - lightness * saturation
    let p := nat 2 * lightness - q
    ⟨hueChannel p q (h + one / nat 3), hueChannel p q h, hueChannel p q (h - one / nat 3), alpha⟩

/-- Reads the arguments of `hsl`. -/
def ofHslArguments? : List (List Char) → Option (Color α)
  | h :: s :: l :: rest => do
    return ofHsl (← number? (dropDegrees h.reverse).reverse) (← fraction? 1 s) (← fraction? 1 l)
      (← alpha? rest)
  | _ => none

/-! ## All forms -/

def ofName? (name : String) : Option (Color α) :=
  if name = "transparent" then some (ofBytes ⟨0, 0, 0, 0⟩)
  else (names.lookup name).map fun n =>
    ofBytes ⟨UInt8.ofNat (n / 0x10000), UInt8.ofNat (n / 0x100), UInt8.ofNat n, 255⟩

/-- Reads a color in lower case without blanks around it. -/
def ofChars? (cs : List Char) : Option (Color α) :=
  match cs with
  | '#' :: digits => ofHex? digits
  | _ =>
    match cs.span (· ≠ '(') with
    | (name, _ :: after) =>
      match before? [')'] after with
      | none => none
      | some body =>
        let arguments := words isSeparator body
        match String.ofList name with
        | "rgb" | "rgba" => ofRgb? arguments
        | "hsl" | "hsla" => ofHslArguments? arguments
        | _ => none
    | (name, []) => ofName? (String.ofList name)

def parse? (text : String) : Option (Color α) :=
  ofChars? ((trimBlanks text.toList).map Char.toLower)

def isColor (α : Type) [Arith α] (text : String) : Bool :=
  (parse? (α := α) text).isSome

/-! ## Writing -/

/-- A number of thousandths, without zeros at the end. -/
def thousandths (n : Nat) : String :=
  let places := Text.dropEnd (· = '0') (Double.padded 3 (n % 1000)).toList
  if places.isEmpty then toString (n / 1000)
  else toString (n / 1000) ++ "." ++ String.ofList places

def alphaText (x : α) : String :=
  let a := clamp x
  if isNumber a = false then "NaN"
  else if isNegativeZero a then "-0"
  else thousandths (nearestNat (a * nat 1000))

def toCss (c : Color α) : String :=
  let b := c.toBytes
  "rgba(" ++ String.intercalate "," [toString b.red.toNat, toString b.green.toNat,
    toString b.blue.toNat, alphaText c.alpha] ++ ")"

end StyledMap.Color
