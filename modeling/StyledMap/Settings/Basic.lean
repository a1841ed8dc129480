import StyledMap.Json.Fields
import StyledMap.Settings.Duration

/-! # Settings

* `Settings` says how links are expanded and how long requests may take.
* `Settings.ofJson?` reads them; what is absent has its default, and other members are ignored. The
  fields may also stand in an array, in the order of the structure.
-/

set_option autoImplicit false

namespace StyledMap

/-- How links are expanded and requests are made. -/
structure Settings where
  accessToken : String
  apiRoot : String
  pixelRatio : Float
  requestTimeout : Duration
  connectTimeout : Duration

namespace Settings

def defaultRoot : String := "https://api.mapbox.com"

/-- The settings that hold when nothing is set. -/
def standard : Settings :=
  ⟨"", defaultRoot, 1.0, Duration.ofWhole 30, Duration.ofWhole 10⟩

instance : Inhabited Settings := ⟨standard⟩

/-- Reads a value that is there, or takes the default. -/
def orDefault? {β : Type} (read : Json → Option β) (default : β) (value : Option Json) :
    Option β :=
  match value with
  | some v => read v
  | none => some default

def readSeconds? (value : Json) : Option Duration :=
  value.asFloat?.bind Duration.ofSeconds?

def ofFields? (token root ratio request connect : Option Json) : Option Settings := do
  return {
    accessToken := ← orDefault? Json.asString? standard.accessToken token
    apiRoot := ← orDefault? Json.asString? standard.apiRoot root
    pixelRatio := ← orDefault? Json.asFloat? standard.pixelRatio ratio
    requestTimeout := ← orDefault? readSeconds? standard.requestTimeout request
    connectTimeout := ← orDefault? readSeconds? standard.connectTimeout connect }

def ofJson? : Json → Option Settings
  | .object members =>
    let get := Table.get? members
    ofFields? (get "access_token") (get "api_root") (get "pixel_ratio") (get "request_timeout")
      (get "connect_timeout")
  | .array items =>
    if items.length ≤ 5 then ofFields? items[0]? items[1]? items[2]? items[3]? items[4]? else none
  | _ => none

end Settings

end StyledMap
