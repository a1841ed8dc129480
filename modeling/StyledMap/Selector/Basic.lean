import StyledMap.Feature

/-! # Selectors

* `Key` is where a selector reads a feature: its geometry class, its id or a property.
* `Scalar` is a literal that values are compared with; only scalars of one type are comparable.
* `ScalarSet` holds literals by type, numbers by their bits with one zero.
* `Selector` is a predicate on features, and `Selector.selects` decides it.
-/

set_option autoImplicit false

namespace StyledMap

/-- Where a selector reads a feature. -/
inductive Key
  | geometry
  | id
  | property (name : String)
  deriving DecidableEq, Repr

namespace Key

/-- The key of a name; the names of the geometry class and of the id are reserved. -/
def ofName : String → Key
  | "$type" => geometry
  | "$id" => id
  | name => property name

def read? (key : Key) (f : Feature) : Option Json :=
  match key with
  | geometry => some (.string f.geometry.name)
  | id => f.id
  | property name => f.property? name

def isPresent (key : Key) (f : Feature) : Bool :=
  (key.read? f).isSome

end Key

/-! ## Literals -/

/-- A literal of a selector. -/
inductive Scalar
  | null
  | bool (b : Bool)
  | number (x : Float)
  | text (s : String)

/-- The order of two doubles, unless one of them is no number. -/
def compareDoubles? (x y : Float) : Option Ordering :=
  if x < y then some .lt
  else if x == y then some .eq
  else if y < x then some .gt
  else none

namespace Scalar

/-- The scalar that a JSON value is; arrays and objects are none. -/
def ofJson? : Json → Option Scalar
  | .null => some null
  | .bool b => some (bool b)
  | .number n => some (number n.toFloat)
  | .string s => some (text s)
  | _ => none

/-- The order of two scalars of one type; false comes before true. -/
def compare? : Scalar → Scalar → Option Ordering
  | null, null => some .eq
  | bool a, bool b => some (compare a b)
  | number x, number y => compareDoubles? x y
  | text s, text t => some (compare s t)
  | _, _ => none

end Scalar

def Key.scalar? (key : Key) (f : Feature) : Option Scalar :=
  (key.read? f).bind Scalar.ofJson?

/-- Literals by type. -/
structure ScalarSet where
  texts : List String
  numbers : List UInt64
  hasTrue : Bool
  hasFalse : Bool
  hasNull : Bool

namespace ScalarSet

/-- The set without literals. -/
def empty : ScalarSet := ⟨[], [], false, false, false⟩

def insert (set : ScalarSet) : Scalar → ScalarSet
  | .null => { set with hasNull := true }
  | .bool true => { set with hasTrue := true }
  | .bool false => { set with hasFalse := true }
  | .number x => { set with numbers := Double.valueBits x :: set.numbers }
  | .text s => { set with texts := s :: set.texts }

def ofList (scalars : List Scalar) : ScalarSet :=
  scalars.foldl insert empty

def contains (set : ScalarSet) : Scalar → Bool
  | .null => set.hasNull
  | .bool true => set.hasTrue
  | .bool false => set.hasFalse
  | .number x => set.numbers.contains (Double.valueBits x)
  | .text s => set.texts.contains s

end ScalarSet

/-- How a value is compared with a literal. -/
inductive Comparison
  | equal
  | notEqual
  | less
  | atMost
  | greater
  | atLeast
  deriving DecidableEq, Repr

namespace Comparison

def ofName? : String → Option Comparison
  | "==" => some equal
  | "!=" => some notEqual
  | "<" => some less
  | "<=" => some atMost
  | ">" => some greater
  | ">=" => some atLeast
  | _ => none

/-- Whether a comparison holds of an order. Without an order only `notEqual` holds. -/
def holds : Comparison → Option Ordering → Bool
  | equal, order => order == some .eq
  | notEqual, order => order != some .eq
  | less, order => order == some .lt
  | atMost, order => order == some .lt || order == some .eq
  | greater, order => order == some .gt
  | atLeast, order => order == some .gt || order == some .eq

end Comparison

/-! ## Selectors -/

/-- A predicate on features. -/
inductive Selector
  | constant (b : Bool)
  | compares (key : Key) (comparison : Comparison) (literal : Scalar)
  | isMember (key : Key) (literals : ScalarSet)
  | isNotMember (key : Key) (literals : ScalarSet)
  | has (key : Key)
  | hasNot (key : Key)
  | allOf (parts : List Selector)
  | anyOf (parts : List Selector)
  | noneOf (parts : List Selector)

namespace Selector

def always : Selector := constant true

instance : Inhabited Selector := ⟨always⟩

def holdsMember (key : Key) (literals : ScalarSet) (f : Feature) : Bool :=
  match key.scalar? f with
  | some s => literals.contains s
  | none => false

mutual

def selects (f : Feature) : Selector → Bool
  | constant b => b
  | compares key comparison literal =>
    comparison.holds ((key.scalar? f).bind fun s => s.compare? literal)
  | isMember key literals => holdsMember key literals f
  | isNotMember key literals => !holdsMember key literals f
  | has key => key.isPresent f
  | hasNot key => !key.isPresent f
  | allOf parts => selectsAll f parts
  | anyOf parts => selectsAny f parts
  | noneOf parts => !selectsAny f parts

def selectsAll (f : Feature) : List Selector → Bool
  | [] => true
  | p :: ps => selects f p && selectsAll f ps

def selectsAny (f : Feature) : List Selector → Bool
  | [] => false
  | p :: ps => selects f p || selectsAny f ps

end

end Selector

end StyledMap
