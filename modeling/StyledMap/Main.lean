import StyledMap.Inspect.Run

/-! # The command line

Reads the arguments, the environment and the files that they name, and prints what the inspection
answers. There is no network: every address is unreachable. A settings file has to be written in
JSON.
-/

set_option autoImplicit false

namespace StyledMap.CommandLine

/-- What an address answers without a network. -/
def offline (url : String) : LinkFault :=
  if url.isEmpty then .invalidUrl url else .request url "network is unreachable"

/-- Reads a file; the reason of a failure is the text of the operating system. -/
def readText (path : String) : IO (Except String String) := do
  try
    let bytes ← IO.FS.readBinFile path
    match String.fromUTF8? bytes with
    | some text => return .ok text
    | none => return .error "stream did not contain valid UTF-8"
  catch _ => return .error "No such file or directory (os error 2)"

def variableNames : List String := ["MAPBOX_ACCESS_TOKEN", "STYLE_API_ROOT", "STYLE_INSPECT_CONFIG"]

def environment (names : List String) : IO Environment := do
  let entries ← names.filterMapM fun name => do
    return (← IO.getEnv name).map fun value => (name, value)
  return Table.ofList entries

def readFiles (paths : List String) : IO (List (String × Except String String)) :=
  paths.mapM fun path => do return (path, ← readText path)

def settingsOf : SettingsReader := fun text =>
  (Json.parse? text).bind SettingsFile.ofJson?

/-- The files that have been read, without a network. -/
def resourcesOf (files : List (String × Except String String)) : Resources where
  json url := .error (offline url)
  image url := .error (offline url)
  file path := (files.lookup path).getD (.error "No such file or directory (os error 2)")

end StyledMap.CommandLine

open StyledMap StyledMap.CommandLine in
def main (arguments : List String) : IO UInt32 := do
  let first ← readFiles [Inspect.variablesFile]
  let texts := first.filterMap fun file => file.2.toOption
  let given ← environment (variableNames ++ texts.flatMap Environment.namesIn)
  let named ← readFiles (Inspect.namedFiles arguments given (resourcesOf first))
  let ending := Inspect.run settingsOf arguments given (resourcesOf (first ++ named))
  IO.print ending.output
  IO.eprint ending.errors
  return ending.exitCode
