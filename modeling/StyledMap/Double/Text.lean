import StyledMap.Double.Digits

/-! # Texts of a double

* `plain` never uses an exponent and writes a whole number without a point. Of two texts equally
  near it takes the one farther from zero.
* `exchange` is the form of a number in JSON text: a whole number keeps `.0`, and an exponent is
  written, with its sign, outside the range from `10 ^ -5` to `10 ^ 16`. Of two texts equally near
  it takes the one that ends in an even digit.
* `scientific` writes 17 significant digits and an exponent, which names every double exactly.
-/

set_option autoImplicit false

namespace StyledMap.Double

/-- The digits of a number, with zeros in front up to `width` digits. -/
def padded (width n : Nat) : String :=
  let text := toString n
  String.ofList (List.replicate (width - text.length) '0') ++ text

/-- Positional notation: the digits before the point and those after it. -/
def Digits.positional (d : Digits) : String × String :=
  if 0 ≤ d.exponent then (toString (d.digits * 10 ^ d.exponent.toNat), "")
  else
    let places := (-d.exponent).toNat
    (toString (d.digits / 10 ^ places), padded places (d.digits % 10 ^ places))

def signed (x : Float) (magnitude : String) : String :=
  if isNegative x then "-" ++ magnitude else magnitude

/-- Texts of the doubles that have no digits; the others are written by `finite`. -/
def withNonFinite (finite : Float → String) (x : Float) : String :=
  if x.isNaN then "NaN"
  else if x.isInf then signed x "inf"
  else signed x (finite x)

def plain : Float → String :=
  withNonFinite fun x =>
    match (shortest .away x).positional with
    | (whole, "") => whole
    | (whole, part) => whole ++ "." ++ part

def exchange : Float → String :=
  withNonFinite fun x =>
    let d := shortest .toEven x
    let lead := d.exponent + digitCount d.digits - 1
    if d.digits = 0 ∨ (-5 ≤ lead ∧ lead < 16) then
      match d.positional with
      | (whole, "") => whole ++ ".0"
      | (whole, part) => whole ++ "." ++ part
    else
      let text := (toString d.digits).toList
      let part := if d.digits < 10 then [] else '.' :: text.drop 1
      let sign := if 0 ≤ lead then "+" else ""
      String.ofList (text.take 1 ++ part) ++ "e" ++ sign ++ toString lead

/-- Seventeen significant digits and the exponent of the first. -/
def scientific : Float → String :=
  withNonFinite fun x =>
    let (digits, lead) := significant 17 x
    let text := (padded 17 digits).toList
    String.ofList (text.take 1) ++ "." ++ String.ofList (text.drop 1) ++ "e" ++ toString lead

end StyledMap.Double
