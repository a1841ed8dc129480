import StyledMap.Fault
import StyledMap.Selector.Basic

/-! # Reading selectors

* An expression is a truth value or an array of an operator and its operands.
* `Selector.ofJson` reads an expression; every fault is found here, so that a selector cannot fail.
* `Selector.ofFilter` reads the filter of a layer; an absent filter and `null` select every feature.
-/

set_option autoImplicit false

namespace StyledMap

def Key.ofJson : Json → Except FilterFault Key
  | .string name => .ok (Key.ofName name)
  | value => .error (.keyNotString value)

def Scalar.ofJson (value : Json) : Except FilterFault Scalar :=
  match Scalar.ofJson? value with
  | some s => .ok s
  | none => .error (.literalNotScalar value)

namespace Selector

def comparisonOf (operator : String) (comparison : Comparison) :
    List Json → Except FilterFault Selector
  | [key, literal] => do
    return compares (← Key.ofJson key) comparison (← Scalar.ofJson literal)
  | operands => .error (.comparisonOperands operator operands.length)

/-- The literals of a membership test: its operands, or the items of an array that stands alone. -/
def membershipLiterals : List Json → List Json
  | [.array items] => items
  | operands => operands

def membershipOf : List Json → Except FilterFault (Key × ScalarSet)
  | [] => .error .membershipWithoutKey
  | key :: operands => do
    let key ← Key.ofJson key
    let literals ← (membershipLiterals operands).mapM Scalar.ofJson
    return (key, ScalarSet.ofList literals)

def presenceOf : List Json → Except FilterFault Key
  | [key] => Key.ofJson key
  | operands => .error (.presenceOperands operands.length)

/-- Reads an operator that has no expressions among its operands. -/
def leafOf (operator : String) (operands : List Json) : Except FilterFault Selector :=
  match Comparison.ofName? operator with
  | some comparison => comparisonOf operator comparison operands
  | none =>
    match operator with
    | "in" => (membershipOf operands).map fun (key, literals) => isMember key literals
    | "!in" => (membershipOf operands).map fun (key, literals) => isNotMember key literals
    | "has" => (presenceOf operands).map has
    | "!has" => (presenceOf operands).map hasNot
    | _ => .error (.unknownOperator operator)

mutual

def ofJson : Json → Except FilterFault Selector
  | .bool b => .ok (constant b)
  | .array [] => .error .empty
  | .array (.string operator :: operands) =>
    match operator with
    | "all" => (ofItems operands).map allOf
    | "any" => (ofItems operands).map anyOf
    | "none" => (ofItems operands).map noneOf
    | _ => leafOf operator operands
  | .array (value :: _) => .error (.operatorNotString value)
  | value => .error (.notArray value)

/-- Reads expressions in order, up to the first fault. -/
def ofItems : List Json → Except FilterFault (List Selector)
  | [] => .ok []
  | value :: values =>
    match ofJson value with
    | .error fault => .error fault
    | .ok part => (ofItems values).map (part :: ·)

end

def ofFilter : Option Json → Except Fault Selector
  | none => .ok always
  | some .null => .ok always
  | some value => (ofJson value).mapError .malformedFilter

end Selector

end StyledMap
