import StyledMap.Json.Written
import StyledMap.Layer.Basic
import StyledMap.Source

/-! # Style documents

* `Document` is a style of version 8: its sources and its layers in drawing order. Members without
  a field of their own are kept in `extra`.
* `Document.ofJson` reads and validates a document; `Document.ofText` does so from text, where no
  field may be repeated.
* `Document.toJson` writes a document; absent fields are left out.
-/

set_option autoImplicit false

namespace StyledMap

/-- A style document. -/
structure Document where
  version : UInt64
  name : Option String
  sources : Table Source
  layers : List Layer
  sprite : Option String
  glyphs : Option String
  extra : Table Json

namespace Document

def supportedVersion : UInt64 := 8

def fieldNames : List String := ["version", "name", "sources", "layers", "sprite", "glyphs"]

/-! ## Reading -/

def readVersion? : Json → Option UInt64
  | .number (.natural n) => some n
  | _ => none

def readSources? (value : Json) : Option (Table Source) := do
  (← value.asMembers?).mapM fun entry => do return (entry.1, ← Source.ofJson? entry.2)

def readLayers? (value : Json) : Option (List Layer) := do
  (← value.asItems?).mapM Layer.ofJson?

def ofMembers? (members : Table Json) : Option Document := do
  return {
    version := ← Json.required? readVersion? members "version"
    name := ← Json.optional? Json.asString? members "name"
    sources := ← Json.required? readSources? members "sources"
    layers := ← Json.required? readLayers? members "layers"
    sprite := ← Json.optional? Json.asString? members "sprite"
    glyphs := ← Json.optional? Json.asString? members "glyphs"
    extra := members.without fieldNames }

/-- The first id of a list that occurs earlier in it; `seen` holds ids that came before the list. -/
def firstRepeated? (seen : List String) : List String → Option String
  | [] => none
  | id :: ids => if seen.contains id then some id else firstRepeated? (id :: seen) ids

def validate (d : Document) : Except Fault Document :=
  if d.version ≠ supportedVersion then .error (.unsupportedVersion d.version)
  else
    match firstRepeated? [] (d.layers.map Layer.id) with
    | some id => .error (.duplicateLayer id)
    | none => .ok d

/-- Reads a document without validating it. -/
def ofShape? (value : Json) : Option Document :=
  value.asMembers?.bind ofMembers?

def ofJson (value : Json) : Except Fault Document :=
  match ofShape? value with
  | some d => d.validate
  | none => .error .malformedDocument

/-! ## Reading text -/

/-- Whether no field of a record is repeated. -/
def hasUniqueFields (names : List String) (entries : List (Option String × Written)) : Bool :=
  names.all fun name => Written.occurrences name entries ≤ 1

/-- Whether a written value is an object in which no field is repeated. -/
def isRecord (names : List String) : Written → Bool
  | .object entries => hasUniqueFields names entries
  | _ => false

def sourcesAreRecords : Written → Bool
  | .object entries => entries.all fun entry =>
    isRecord Source.fieldNames entry.2 &&
      ((entry.2.toJson? Written.depthLimit).bind Source.ofJson?).isSome
  | _ => false

/-- Whether no layer repeats a field. -/
def layersAreRecords : Written → Bool
  | .array items => items.all (isRecord Layer.fieldNames)
  | _ => false

/-- Whether a written document repeats no field, in itself, its sources and its layers. -/
def isWellWritten : Written → Bool
  | .object entries =>
    hasUniqueFields fieldNames entries &&
      entries.all fun entry =>
        match entry.1 with
        | some "sources" => sourcesAreRecords entry.2
        | some "layers" => layersAreRecords entry.2
        | _ => true
  | _ => false

def ofText (text : String) : Except Fault Document :=
  match Written.parse? text with
  | some written =>
    if isWellWritten written then
      match written.toJson? Written.depthLimit with
      | some value => ofJson value
      | none => .error .malformedDocument
    else .error .malformedDocument
  | none => .error .malformedDocument

/-! ## Writing -/

def fields (d : Document) : List (String × Json) :=
  [("version", .number (.natural d.version))] ++ Json.field .string "name" d.name ++
    [("sources", .object (d.sources.mapValues Source.toJson)),
     ("layers", .array (d.layers.map Layer.toJson))] ++
    Json.field .string "sprite" d.sprite ++ Json.field .string "glyphs" d.glyphs

def toJson (d : Document) : Json :=
  .object (d.extra.extend d.fields)

/-! ## Layers -/

/-- The first layer of an id. -/
def layer? (d : Document) (id : String) : Option Layer :=
  d.layers.find? fun l => l.id == id

end Document

end StyledMap
