import StyledMap.Decimal
import StyledMap.Inspect.Environment

/-! # Command-line arguments

* `Arguments` is what a command line asks for.
* `Arguments.parse` reads a command line. Options may stand anywhere before `--`; a value follows
  its option, or is joined to it. A value that begins with a minus sign has to be joined.
* `Arguments.Stop` is why no inspection follows: help was asked for, or the command line is wrong.
-/

set_option autoImplicit false

namespace StyledMap

/-- What a command line asks for. -/
structure Arguments where
  style : String
  zoom : Float
  feature : Option String
  strict : Bool
  accessToken : Option String
  apiRoot : Option String
  pixelRatio : Option Float
  config : Option String

namespace Arguments

/-- Why no inspection follows a command line. -/
inductive Stop
  | help
  | usage
  deriving DecidableEq, Repr

/-- The options that take a value. -/
inductive Choice
  | zoom
  | feature
  | accessToken
  | apiRoot
  | pixelRatio
  | config
  | logLevel
  deriving DecidableEq, Repr

def Choice.name : Choice → String
  | zoom => "zoom"
  | feature => "feature"
  | accessToken => "access-token"
  | apiRoot => "api-root"
  | pixelRatio => "pixel-ratio"
  | config => "config"
  | logLevel => "log-level"

def Choice.all : List Choice :=
  [zoom, feature, accessToken, apiRoot, pixelRatio, config, logLevel]

/-- Whether an option accepts a value: numbers where numbers are expected, and the name of a file
that is not empty. -/
def Choice.accepts (choice : Choice) (value : String) : Bool :=
  match choice with
  | zoom | pixelRatio => (floatOfText? value).isSome
  | config => value ≠ ""
  | feature | accessToken | apiRoot | logLevel => true

/-- The command line read so far. -/
structure Draft where
  style : Option String
  strict : Bool
  values : List (Choice × String)

def Draft.set (draft : Draft) (choice : Choice) (value : String) : Except Stop Draft :=
  if choice.accepts value && !(draft.values.lookup choice).isSome then
    .ok { draft with values := (choice, value) :: draft.values }
  else .error .usage

def Draft.setStyle (draft : Draft) (style : String) : Except Stop Draft :=
  match draft.style with
  | none => .ok { draft with style := some style }
  | some _ => .error .usage

/-- Asks for references that do not dangle, once. -/
def Draft.setStrict (draft : Draft) : Except Stop Draft :=
  if draft.strict then .error .usage else .ok { draft with strict := true }

/-! ## Forms of arguments -/

/-- What an argument before `--` is. -/
inductive Token
  /-- A text that is no option. -/
  | plain (text : String)
  /-- The end of options. -/
  | endOfOptions
  /-- An option, with the value joined to it. -/
  | option (choice : Choice) (joined : Option String)
  | strict
  | help
  | unknown

def tokenOfLong (cs : List Char) : Token :=
  let (name, rest) := cs.span (· ≠ '=')
  let joined := match rest with
    | _ :: value => some (String.ofList value)
    | [] => none
  let name := String.ofList name
  match Choice.all.find? fun choice => choice.name == name with
  | some choice => .option choice joined
  | none =>
    match name, joined with
    | "strict-refs", none => .strict
    | "help", none => .help
    | _, _ => .unknown

/-- Reads what follows one minus sign: a letter, and the value joined to it if any. An equals sign
between them is dropped. -/
def tokenOfShort (letter : Char) (rest : List Char) : Token :=
  let joined := match rest with
    | [] => none
    | '=' :: value => some (String.ofList value)
    | value => some (String.ofList value)
  match letter with
  | 'z' => .option .zoom joined
  | 'f' => .option .feature joined
  | 'h' => .help
  | _ => .unknown

/-- Reads an argument. A single minus sign is plain text. -/
def tokenOf (argument : String) : Token :=
  match argument.toList with
  | ['-', '-'] => .endOfOptions
  | '-' :: '-' :: name => tokenOfLong name
  | '-' :: letter :: rest => tokenOfShort letter rest
  | _ => .plain argument

/-! ## Reading a command line -/

/-- Reads arguments after `--`. -/
def readPlain (draft : Draft) : List String → Except Stop Draft
  | [] => .ok draft
  | argument :: rest => do readPlain (← draft.setStyle argument) rest

def readAll (draft : Draft) : List String → Except Stop Draft
  | [] => .ok draft
  | argument :: rest =>
    match tokenOf argument with
    | .plain text => do readAll (← draft.setStyle text) rest
    | .endOfOptions => readPlain draft rest
    | .option choice (some value) => do readAll (← draft.set choice value) rest
    | .option choice none =>
      match rest with
      | value :: rest =>
        match tokenOf value with
        | .plain text => do readAll (← draft.set choice text) rest
        | _ => .error .usage
      | [] => .error .usage
    | .strict => do readAll (← draft.setStrict) rest
    | .help => .error .help
    | .unknown => .error .usage

/-- The zoom level when none is given. -/
def defaultZoom : Float := 10.0

/-- Reads a command line; the environment stands in for options that are absent. -/
def parse (arguments : List String) (environment : Environment) : Except Stop Arguments := do
  let draft ← readAll ⟨none, false, []⟩ arguments
  let value := fun choice => draft.values.lookup choice
  let orVariable := fun choice name => (value choice).orElse fun _ => environment.get? name
  let config := orVariable .config "STYLE_INSPECT_CONFIG"
  match draft.style with
  | none => .error .usage
  | some style =>
    if config = some "" then .error .usage
    else
      return {
        style
        zoom := ((value .zoom).bind floatOfText?).getD defaultZoom
        feature := value .feature
        strict := draft.strict
        accessToken := orVariable .accessToken "MAPBOX_ACCESS_TOKEN"
        apiRoot := orVariable .apiRoot "STYLE_API_ROOT"
        pixelRatio := (value .pixelRatio).bind floatOfText?
        config }

def usageText : String :=
  "Usage: style-inspect [OPTIONS] <STYLE>\n\nFor more information, try '--help'."

def helpText : String := String.intercalate "\n" [
  "Load, compile and evaluate a map style",
  "",
  "Usage: style-inspect [OPTIONS] <STYLE>",
  "",
  "Arguments:",
  "  <STYLE>  Style document: a file path, an http(s) URL or a mapbox://styles/ URL",
  "",
  "Options:",
  "  -z, --zoom <ZOOM>                  Zoom level to evaluate at [default: 10]",
  "  -f, --feature <FEATURE>            Feature to evaluate, as JSON: " ++
    "\x7b\"type\": \"Polygon\", \"id\": 1, \"properties\": \x7b...\x7d\x7d",
  "      --strict-refs                  Fail when a layer's ref names a missing layer",
  "      --access-token <ACCESS_TOKEN>  Access token for mapbox:// links " ++
    "[env: MAPBOX_ACCESS_TOKEN=]",
  "      --api-root <API_ROOT>          API root mapbox:// links are rewritten against " ++
    "[env: STYLE_API_ROOT=]",
  "      --pixel-ratio <PIXEL_RATIO>    Display pixel ratio (selects @2x sprites above 1)",
  "      --config <CONFIG>              YAML file with loader settings " ++
    "[env: STYLE_INSPECT_CONFIG=]",
  "      --log-level <LOG_LEVEL>        Log level [default: info]",
  "  -h, --help                         Print help"]

end Arguments

end StyledMap
