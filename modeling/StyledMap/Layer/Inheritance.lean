import StyledMap.Diagnostic
import StyledMap.Fault
import StyledMap.Layer.Basic

/-! # Inheritance of layers

A layer with a reference takes fields from the layer it names, in front of or behind it.

* `Layer.inherit` is inheritance from one layer; it is one level deep, since only the fields that
  the other layer declares itself are taken.
* `Resolution.ofLayers` resolves every reference of a list and lists the dangling ones.
* `Resolution.strict` refuses a list with a dangling reference.
-/

set_option autoImplicit false

namespace StyledMap

/-- A reference of a layer to an id that no layer has. -/
structure Dangling where
  layer : String
  missing : String
  deriving DecidableEq, Repr

namespace Layer

def inheritedNames : List String :=
  ["type", "minzoom", "maxzoom", "source", "source-layer", "filter", "layout"]

/-- A layer without its reference. -/
def detached (l : Layer) : Layer :=
  { l with reference := none }

/-- The layer with the fields that `parent` declares in place of its own. Paint, id and extra
members stay its own. -/
def inherit (l parent : Layer) : Layer :=
  { l with
    reference := none
    kind := parent.kind <|> l.kind
    minzoom := parent.minzoom <|> l.minzoom
    maxzoom := parent.maxzoom <|> l.maxzoom
    source := parent.source <|> l.source
    sourceLayer := parent.sourceLayer <|> l.sourceLayer
    filter := parent.filter <|> l.filter
    layout := parent.layout <|> l.layout }

/-- The layer of an id; of several the last. -/
def named? (layers : List Layer) (id : String) : Option Layer :=
  layers.reverse.find? fun l => l.id == id

/-- The layer that stands on its own: without a reference it is the same. -/
def resolved (layers : List Layer) (l : Layer) : Layer :=
  match l.reference with
  | none => l
  | some id =>
    match named? layers id with
    | some parent => l.inherit parent
    | none => l.detached

/-- The reference of a layer, if it names no layer of the list. -/
def dangling? (layers : List Layer) (l : Layer) : Option Dangling :=
  match l.reference with
  | none => none
  | some id =>
    match named? layers id with
    | some _ => none
    | none => some ⟨l.id, id⟩

end Layer

/-- Layers without references, in their order, and the references that named no layer. -/
structure Resolution where
  layers : List Layer
  dangling : List Dangling

namespace Resolution

def ofLayers (layers : List Layer) : Resolution :=
  ⟨layers.map (Layer.resolved layers), layers.filterMap (Layer.dangling? layers)⟩

/-- The layers, unless a reference dangles. -/
def strict (r : Resolution) : Except Fault (List Layer) :=
  match r.dangling with
  | d :: _ => .error (.danglingReference d.layer d.missing)
  | [] => .ok r.layers

def diagnostics (r : Resolution) : List Diagnostic :=
  r.dangling.map fun d =>
    ⟨.danglingReference, d.layer, s!"references missing layer '{d.missing}'"⟩

end Resolution

end StyledMap
