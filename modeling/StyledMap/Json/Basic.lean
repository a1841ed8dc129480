import StyledMap.Table

/-! # JSON values

* `Number` is a 64-bit whole number or a double; a whole number and a double are never equal.
* `Json` is a value; the members of an object are a `Table`, so equal objects have equal members.
* The views `asString?`, `asFloat?`, `asItems?` and `asMembers?` read a value of one kind.
-/

set_option autoImplicit false

namespace StyledMap

/-- A JSON number: a whole number that fits 64 bits, or a double. -/
inductive Number
  | natural (n : UInt64)
  | negative (n : Int64)
  | double (x : Float)

namespace Number

/-- The nearest double. Nearest is the same on both sides of zero, so a negative number takes the
double of its magnitude. -/
def toFloat : Number → Float
  | natural n => n.toFloat
  | negative n =>
    let magnitude := n.toInt.natAbs.toUInt64.toFloat
    if n.toInt < 0 then -magnitude else magnitude
  | double x => x

/-- Equality within one kind; doubles compare as numbers. -/
protected def beq : Number → Number → Bool
  | natural m, natural n => m == n
  | negative m, negative n => m == n
  | double x, double y => x == y
  | _, _ => false

instance : BEq Number := ⟨Number.beq⟩

end Number

/-- A JSON value. -/
inductive Json
  | null
  | bool (b : Bool)
  | number (n : Number)
  | string (s : String)
  | array (items : List Json)
  | object (members : List (String × Json))

namespace Json

instance : Inhabited Json := ⟨null⟩

mutual

/-- Equality of values; doubles inside compare as numbers. -/
protected def beq : Json → Json → Bool
  | null, null => true
  | bool a, bool b => a == b
  | number m, number n => m == n
  | string s, string t => s == t
  | array xs, array ys => Json.beqItems xs ys
  | object xs, object ys => Json.beqMembers xs ys
  | _, _ => false

/-- Equality of lists of values. -/
protected def beqItems : List Json → List Json → Bool
  | [], [] => true
  | x :: xs, y :: ys => Json.beq x y && Json.beqItems xs ys
  | _, _ => false

/-- Equality of members in order. -/
protected def beqMembers : List (String × Json) → List (String × Json) → Bool
  | [], [] => true
  | (j, x) :: xs, (k, y) :: ys => j == k && Json.beq x y && Json.beqMembers xs ys
  | _, _ => false

end

instance : BEq Json := ⟨Json.beq⟩

/-! ## Views -/

def asString? : Json → Option String
  | string s => some s
  | _ => none

/-- The double nearest to a number. -/
def asFloat? : Json → Option Float
  | number n => some n.toFloat
  | _ => none

def asItems? : Json → Option (List Json)
  | array items => some items
  | _ => none

def asMembers? : Json → Option (Table Json)
  | object members => some members
  | _ => none

def asPair? : Json → Option (Json × Json)
  | array [first, second] => some (first, second)
  | _ => none

/-- Whether a value is `null`. -/
def isNull : Json → Bool
  | null => true
  | _ => false

def isNumber : Json → Bool
  | number _ => true
  | _ => false

/-- The member of an object with a key; other values have none. -/
def member? (value : Json) (key : String) : Option Json :=
  value.asMembers?.bind (Table.get? · key)

/-- The number that a double is; a double without digits becomes `null`. -/
def ofFloat (x : Float) : Json :=
  if x.isFinite then number (.double x) else null

/-- A string, or `null` in place of none. -/
def ofString? (s : Option String) : Json :=
  match s with
  | some s => string s
  | none => null

end Json

end StyledMap
