import StyledMap.Json.Basic

/-! # Fields of records in JSON

* `Json.required?` reads a member that must be there.
* `Json.optional?` reads a member that may be absent or `null`.
* `Json.field` writes an optional member; what is absent is left out.
* `Json.double` and `Json.natural` write numbers.
-/

set_option autoImplicit false

namespace StyledMap.Json

variable {β : Type}

def required? (read : Json → Option β) (members : Table Json) (key : String) : Option β :=
  (members.get? key).bind read

/-- Reads a member that may be absent or `null`; none stands for a member of the wrong shape. -/
def optional? (read : Json → Option β) (members : Table Json) (key : String) :
    Option (Option β) :=
  match members.get? key with
  | none => some none
  | some .null => some none
  | some value => (read value).map some

/-- The entries of an optional member. -/
def field (write : β → Json) (key : String) (value : Option β) : List (String × Json) :=
  match value with
  | some v => [(key, write v)]
  | none => []

def double (x : Float) : Json :=
  number (.double x)

/-- A natural number below `2 ^ 64` as a number. -/
def natural (n : Nat) : Json :=
  number (.natural n.toUInt64)

end StyledMap.Json
