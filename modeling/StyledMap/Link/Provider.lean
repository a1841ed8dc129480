import StyledMap.Settings.Basic
import StyledMap.Text.Affix
import StyledMap.Text.Blank

/-! # Provider links

A link of the provider begins with `mapbox://`. `Provider` expands such links to addresses under
the root of its interface, with the access token at the end; any other link is left as it is.
-/

set_option autoImplicit false

namespace StyledMap

/-- How links of the provider are expanded. The root has no slash at its end. -/
structure Provider where
  token : String
  root : String
  ratio : Float

/-- The two addresses of a sprite. -/
structure SpriteAddress where
  image : String
  metadata : String
  deriving DecidableEq, Repr

namespace Provider

/-- A root without slashes at its end. -/
def trimRoot (root : String) : String :=
  String.ofList (Text.dropEnd (· = '/') root.toList)

def of (token root : String) (ratio : Float) : Provider :=
  ⟨token, trimRoot root, ratio⟩

def ofSettings (s : Settings) : Provider :=
  of s.accessToken s.apiRoot s.pixelRatio

/-- The token as the last part of a query. -/
def tokenQuery (p : Provider) : String :=
  "access_token=" ++ p.token

def styleUrl (p : Provider) (url : String) : String :=
  match Text.afterString? "mapbox://styles/" url with
  | some path => p.root ++ "/styles/v1/" ++ path ++ "?" ++ p.tokenQuery
  | none => url

/-- The address of glyphs; its templates stay in it. -/
def glyphUrl (p : Provider) (url : String) : String :=
  match Text.afterString? "mapbox://fonts/" url with
  | some path => p.root ++ "/fonts/v1/" ++ path ++ "?" ++ p.tokenQuery
  | none => url

def tileUrl (p : Provider) (url : String) : String :=
  match Text.afterString? "mapbox://" url with
  | some tiles => p.root ++ "/v4/" ++ tiles ++ ".json?secure&" ++ p.tokenQuery
  | none => url

def ratioMark (p : Provider) : String :=
  if 1.0 < p.ratio then "@2x" else ""

def spriteAddress (p : Provider) (url : String) : SpriteAddress :=
  match Text.afterString? "mapbox://sprites/" url with
  | some path =>
    let base := p.root ++ "/styles/v1/" ++ path ++ "/sprite" ++ p.ratioMark
    ⟨base ++ ".png?" ++ p.tokenQuery, base ++ ".json?" ++ p.tokenQuery⟩
  | none => ⟨url ++ p.ratioMark ++ ".png", url ++ p.ratioMark ++ ".json"⟩

end Provider

end StyledMap
