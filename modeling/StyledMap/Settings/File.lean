import StyledMap.Double.Text
import StyledMap.Settings.Basic

/-! # Settings files and overrides

* `SettingsFile` has the settings that a file names; every one is optional and no other is
  allowed.
* `SettingsFile.ofJson?` reads it from a value. `SettingsReader` is how the text of a file is read,
  which is left to whoever reads it: a file may be written in more than one way.
* `Overrides` come from the command line or the environment and win over a file.
* `Settings.resolve` puts defaults, file and overrides together.
-/

set_option autoImplicit false

namespace StyledMap

/-- The settings that a file names; durations are in seconds. -/
structure SettingsFile where
  accessToken : Option String
  apiRoot : Option String
  pixelRatio : Option Float
  requestTimeout : Option Float
  connectTimeout : Option Float

/-- Settings that win over those of a file. -/
structure Overrides where
  accessToken : Option String
  apiRoot : Option String
  pixelRatio : Option Float

/-- Why settings are refused: a duration that is none. -/
structure InvalidDuration where
  name : String
  seconds : Float

def InvalidDuration.message (d : InvalidDuration) : String :=
  s!"Invalid {d.name}: {Double.plain d.seconds}"

namespace SettingsFile

def names : List String :=
  ["access_token", "api_root", "pixel_ratio", "request_timeout", "connect_timeout"]

def ofMembers? (members : Table Json) : Option SettingsFile := do
  if (members.without names).isEmpty then
    return {
      accessToken := ← Json.optional? Json.asString? members "access_token"
      apiRoot := ← Json.optional? Json.asString? members "api_root"
      pixelRatio := ← Json.optional? Json.asFloat? members "pixel_ratio"
      requestTimeout := ← Json.optional? Json.asFloat? members "request_timeout"
      connectTimeout := ← Json.optional? Json.asFloat? members "connect_timeout" }
  else none

def ofJson? (value : Json) : Option SettingsFile :=
  value.asMembers?.bind ofMembers?

end SettingsFile

/-- Reads the text of a settings file. -/
abbrev SettingsReader := String → Option SettingsFile

namespace Settings

def durationOr (default : Duration) (name : String) (seconds : Option Float) :
    Except InvalidDuration Duration :=
  match seconds with
  | none => .ok default
  | some x =>
    match Duration.ofSeconds? x with
    | some d => .ok d
    | none => .error ⟨name, x⟩

/-- The settings of a file over the defaults. -/
def ofFile (file : SettingsFile) : Except InvalidDuration Settings := do
  return {
    accessToken := file.accessToken.getD standard.accessToken
    apiRoot := file.apiRoot.getD standard.apiRoot
    pixelRatio := file.pixelRatio.getD standard.pixelRatio
    requestTimeout := ← durationOr standard.requestTimeout "request_timeout" file.requestTimeout
    connectTimeout := ← durationOr standard.connectTimeout "connect_timeout" file.connectTimeout }

/-- The settings with overrides in place of their own. -/
def overriddenBy (s : Settings) (o : Overrides) : Settings :=
  { s with
    accessToken := o.accessToken.getD s.accessToken
    apiRoot := o.apiRoot.getD s.apiRoot
    pixelRatio := o.pixelRatio.getD s.pixelRatio }

def resolve (file : Option SettingsFile) (o : Overrides) : Except InvalidDuration Settings :=
  match file with
  | none => .ok (standard.overriddenBy o)
  | some file => (ofFile file).map (overriddenBy · o)

end Settings

end StyledMap
