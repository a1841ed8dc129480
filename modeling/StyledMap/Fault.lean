import StyledMap.Json.Printer

/-! # Faults of styles

* `FilterFault` and `FunctionFault` are the ways in which a filter and a property function can be
  malformed.
* `Fault` is why a style is refused; `Fault.inLayer` names the layer in which a fault occurred, and
  `Fault.root` is the fault without such names.
* The `message` of each is its text.
* `FaultChoice` is which fault is reported of several that are found at the same time, and
  `FaultChoice.gather` gathers results that are.
-/

set_option autoImplicit false

namespace StyledMap

/-- Why a filter expression is refused. -/
inductive FilterFault
  | notArray (got : Json)
  | empty
  | operatorNotString (got : Json)
  | unknownOperator (name : String)
  | comparisonOperands (operator : String) (count : Nat)
  | membershipWithoutKey
  | presenceOperands (count : Nat)
  | keyNotString (got : Json)
  | literalNotScalar (got : Json)

def FilterFault.message : FilterFault → String
  | notArray got => s!"filter must be an array, got {got.text}"
  | empty => "empty filter expression"
  | operatorNotString got => s!"filter operator must be a string, got {got.text}"
  | unknownOperator name => s!"unknown filter operator '{name}'"
  | comparisonOperands operator count =>
    s!"'{operator}' takes a key and a value, got {count} operands"
  | membershipWithoutKey => "'in' needs a key"
  | presenceOperands count => s!"'has' takes exactly one key, got {count} operands"
  | keyNotString got => s!"filter key must be a string, got {got.text}"
  | literalNotScalar got => s!"filter literal must be a scalar, got {got.text}"

/-- Why a property function is refused. -/
inductive FunctionFault
  | baseNotNumber
  | baseNotPositive
  | typeNotString
  | unknownType (name : String)
  | propertyNotString
  | stopsNotArray
  | stopNotPair
  | needsProperty
  | needsStops
  | inputNotNumber (got : Json)
  | inputNotKeyed
  | missingZoom
  | missingValue

def FunctionFault.message : FunctionFault → String
  | baseNotNumber => "base must be a number"
  | baseNotPositive => "base must be positive"
  | typeNotString => "type must be a string"
  | unknownType name => s!"unknown function type '{name}'"
  | propertyNotString => "property must be a string"
  | stopsNotArray => "stops must be an array"
  | stopNotPair => "each stop must be a [input, output] pair"
  | needsProperty => "categorical and identity functions need a property"
  | needsStops => "property function needs stops"
  | inputNotNumber got => s!"stop input {got.text} is not a number"
  | inputNotKeyed => "zoom-and-property stop inputs must all be \x7bzoom, value\x7d objects"
  | missingZoom => "stop input is missing zoom"
  | missingValue => "stop input is missing value"

/-- Why a style is refused. -/
inductive Fault
  | malformedDocument
  | unsupportedVersion (version : UInt64)
  | duplicateLayer (id : String)
  | danglingReference (layer missing : String)
  | malformedFilter (cause : FilterFault)
  | malformedFunction (property : String) (cause : FunctionFault)
  | invalidColor (text : String)
  | inLayer (layer : String) (cause : Fault)

namespace Fault

def message : Fault → String
  | malformedDocument => "Failed to parse style document"
  | unsupportedVersion version => s!"Unsupported style version {version} (expected 8)"
  | duplicateLayer id => s!"Duplicate layer id: {id}"
  | danglingReference layer missing => s!"Layer '{layer}' references missing layer '{missing}'"
  | malformedFilter cause => s!"Malformed filter: {cause.message}"
  | malformedFunction property cause =>
    s!"Malformed function for property '{property}': {cause.message}"
  | invalidColor text => s!"Invalid color: {text}"
  | inLayer layer cause => s!"Layer '{layer}': {cause.message}"

/-- The fault without the names of layers. -/
def root : Fault → Fault
  | inLayer _ cause => cause.root
  | fault => fault

end Fault

/-! ## Faults that are found at the same time -/

/-- Which fault is reported where several are found at the same time. It may be any of them. -/
structure FaultChoice where
  pick : Fault → List Fault → Fault
  mem : ∀ first rest, pick first rest ∈ first :: rest

namespace FaultChoice

/-- The fault at a place, or else the first one. -/
def ofIndex (i : Nat) : FaultChoice where
  pick first rest := (first :: rest)[i]?.getD first
  mem first rest := by
    cases h : (first :: rest)[i]? with
    | none => exact List.mem_cons_self
    | some fault => exact List.mem_of_getElem? h

def first : FaultChoice := ofIndex 0

def fault? {β : Type} : Except Fault β → Option Fault
  | .ok _ => none
  | .error fault => some fault

/-- All values in their order, or one of the faults. -/
def gather {β : Type} (choice : FaultChoice) (results : List (Except Fault β)) :
    Except Fault (List β) :=
  match results.filterMap fault? with
  | [] => .ok (results.filterMap Except.toOption)
  | first :: rest => .error (choice.pick first rest)

end FaultChoice

end StyledMap
