import StyledMap.Link.Provider
import StyledMap.Link.Session
import StyledMap.Style

/-! # Loading styles

Loading fails only when the document cannot be had or is refused. A source or sprite that cannot be
had is left out and reported, and never keeps another one from being requested.

* `Input` is where a style comes from.
* `LoadedStyle` is a document with its links resolved.
* `Loader.load` loads a style: read, validate, resolve references, then fetch sources and sprite.
-/

set_option autoImplicit false

namespace StyledMap

/-- Where a style comes from. -/
inductive Input
  | value (document : Json)
  | path (path : String)
  | url (url : String)

def Input.schemes : List String := ["http://", "https://", "mapbox://"]

/-- The input that an argument names: a link, or else a path. -/
def Input.ofArgument (argument : String) : Input :=
  if schemes.any fun scheme => (Text.afterString? scheme argument).isSome then .url argument
  else .path argument

/-- A sprite: its image and the description of its icons. -/
structure Sprite where
  image : Raster
  metadata : Json

/-- A style with its links resolved. -/
structure LoadedStyle where
  document : Document
  sprite : Option Sprite
  diagnostics : List Diagnostic

/-- Compiles a loaded style. Problems of loading come first. -/
def LoadedStyle.compile (s : LoadedStyle) (choice : FaultChoice) : Except Fault CompiledStyle := do
  let compiled ← CompiledStyle.compile choice s.document
  return { compiled with diagnostics := s.diagnostics ++ compiled.diagnostics }

/-- How styles are loaded: the provider of links, and whether a dangling reference is refused. -/
structure Loader where
  provider : Provider
  strict : Bool

namespace Loader

/-! ## Sources -/

def checkGeoJson (data : Json) : Except LinkFault Unit :=
  match data.member? "type" with
  | some (.string _) => .ok ()
  | _ => .error (.geoJsonWithoutType data)

/-- Expands a source of GeoJSON: data that is a link is fetched from it. -/
def expandGeoJson (s : Source) : Session (Except LinkFault Source) :=
  match s.data with
  | some (.string url) => do
    let response ← Session.json url
    return do
      let data ← response
      checkGeoJson data
      return { s with data := some data }
  | some data => return do
    checkGeoJson data
    return s
  | none => return .error .geoJsonWithoutData

def mergeMetadata (s : Source) (url : String) : Json → Except LinkFault Source
  | .object info => (s.mergedWith info).mapError .style
  | value => .error (.metadataNotObject url value)

/-- Expands a source: GeoJSON by its data, any other by the metadata it links to. -/
def expandSource (p : Provider) (s : Source) : Session (Except LinkFault Source) :=
  if s.isGeoJson then expandGeoJson s
  else
    match s.url with
    | none => return .ok s
    | some url => do
      let url := p.tileUrl url
      let response ← Session.json url
      return response.bind (mergeMetadata s url)

def expandSources (p : Provider) (sources : Table Source) :
    Session (Table (Except LinkFault Source)) :=
  sources.mapM fun entry => do return (entry.1, ← expandSource p entry.2)

def available (expanded : Table (Except LinkFault Source)) : Table Source :=
  expanded.filterMap fun entry =>
    match entry.2 with
    | .ok s => some (entry.1, s)
    | .error _ => none

/-- The sources that were not had, as diagnostics. -/
def unavailable (expanded : Table (Except LinkFault Source)) : List Diagnostic :=
  expanded.filterMap fun entry =>
    match entry.2 with
    | .ok _ => none
    | .error fault => some ⟨.sourceUnavailable, entry.1, fault.message⟩

/-! ## Sprites -/

/-- Fetches a sprite. Both of its parts are requested, and a fault of the image comes first. -/
def loadSprite (p : Provider) (url : String) : Session (Except LinkFault Sprite) := do
  let address := p.spriteAddress url
  let image ← Session.image address.image
  let metadata ← Session.json address.metadata
  return do return ⟨← image, ← metadata⟩

/-- Fetches the sprite that a document declares; a sprite that was not had gives a diagnostic. -/
def loadDeclaredSprite (p : Provider) (url : Option String) :
    Session (Option Sprite × List Diagnostic) :=
  match url with
  | none => return (none, [])
  | some url => do
    match ← loadSprite p url with
    | .ok sprite => return (some sprite, [])
    | .error fault => return (none, [⟨.spriteUnavailable, url, fault.message⟩])

/-! ## Documents -/

def readDocument (p : Provider) : Input → Session (Except LinkFault Json)
  | .value document => return .ok document
  | .path path => do
    let response ← Session.file path
    return do
      match Json.parse? (← response) with
      | some document => return document
      | none => .error (.style .malformedDocument)
  | .url url => Session.json (p.styleUrl url)

def prepare (strict : Bool) (value : Json) : Except Fault (Document × List Diagnostic) := do
  let document ← Document.ofJson value
  let resolution := Resolution.ofLayers document.layers
  if strict then
    return ({ document with layers := ← resolution.strict }, [])
  else
    return ({ document with layers := resolution.layers }, resolution.diagnostics)

/-- Resolves the links of a document; `diagnostics` are the problems found before. -/
def resolveLinks (p : Provider) (document : Document) (diagnostics : List Diagnostic) :
    Session LoadedStyle := do
  let expanded ← expandSources p document.sources
  let (sprite, spriteDiagnostics) ← loadDeclaredSprite p document.sprite
  return {
    document := { document with
      glyphs := document.glyphs.map p.glyphUrl
      sources := available expanded }
    sprite
    diagnostics := diagnostics ++ unavailable expanded ++ spriteDiagnostics }

def load (loader : Loader) (input : Input) : Session (Except LinkFault LoadedStyle) := do
  match ← readDocument loader.provider input with
  | .error fault => return .error fault
  | .ok value =>
    match prepare loader.strict value with
    | .error fault => return .error (.style fault)
    | .ok (document, diagnostics) =>
      return .ok (← resolveLinks loader.provider document diagnostics)

end Loader

end StyledMap
