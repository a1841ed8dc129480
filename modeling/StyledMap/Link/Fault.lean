import StyledMap.Fault
import StyledMap.Text.Quoted

/-! # Faults of links

* `LinkFault` is why a style or something it links to cannot be had.
* `LinkFault.metadataNotObject`, `LinkFault.geoJsonWithoutType` and `LinkFault.geoJsonWithoutData`
  are the faults of an answer that is not what a source needs.
* `LinkFault.message` is the text of a fault.
-/

set_option autoImplicit false

namespace StyledMap

/-- Why a style or something it links to cannot be had. Whoever fetches may answer with a fault of a
style that has a text of its own: `styleText`. -/
inductive LinkFault
  | invalidUrl (url : String)
  | status (url : String) (code : Nat)
  | request (url reason : String)
  | unreadable (path reason : String)
  | invalidJson (url reason : String)
  | invalidImage (url reason : String)
  | invalidGeoJson (reason : String)
  | style (fault : Fault)
  | styleText (text : String)

namespace LinkFault

/-- Metadata of a source that is no object. -/
def metadataNotObject (url : String) (got : Json) : LinkFault :=
  invalidJson url s!"TileJSON must be an object, got {got.text}"

def shownLength : Nat := 120

def geoJsonWithoutType (got : Json) : LinkFault :=
  invalidGeoJson ("missing type in " ++ String.ofList (got.text.toList.take shownLength))

def geoJsonWithoutData : LinkFault :=
  invalidGeoJson "geojson source has no data"

def message : LinkFault → String
  | invalidUrl url => s!"Invalid URL: {Text.quoted url}"
  | status url code => s!"HTTP {code} fetching {url}"
  | request url reason => s!"Request to {url} failed: {reason}"
  | unreadable path reason => s!"Failed to read {path}: {reason}"
  | invalidJson url reason => s!"Invalid JSON from {url}: {reason}"
  | invalidImage url reason => s!"Invalid image from {url}: {reason}"
  | invalidGeoJson reason => s!"Invalid GeoJSON: {reason}"
  | style fault => fault.message
  | styleText text => text

end LinkFault

end StyledMap
