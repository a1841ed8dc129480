/-! # Hexadecimal digits

* `hexDigit?` is the value of a digit in either case; `hexDigit` writes one in lower case.
* `hexBytes?` reads two digits a byte.
-/

set_option autoImplicit false

namespace StyledMap.Text

def hexDigit? (c : Char) : Option Nat :=
  if '0' ≤ c ∧ c ≤ '9' then some (c.toNat - '0'.toNat)
  else if 'a' ≤ c ∧ c ≤ 'f' then some (c.toNat - 'a'.toNat + 10)
  else if 'A' ≤ c ∧ c ≤ 'F' then some (c.toNat - 'A'.toNat + 10)
  else none

def hexDigit (n : Nat) : Char :=
  (Nat.toDigits 16 (n % 16)).headD '0'

def hexBytes? : List Char → Option (List UInt8)
  | [] => some []
  | high :: low :: rest =>
    match hexDigit? high, hexDigit? low with
    | some h, some l => (hexBytes? rest).map (UInt8.ofNat (16 * h + l) :: ·)
    | _, _ => none
  | [_] => none

end StyledMap.Text
