import StyledMap.Inspect.Arguments
import StyledMap.Json.Printer
import StyledMap.Report
import StyledMap.Settings.File

/-! # Inspecting a style

* `Inspect.Failure` is why an inspection gives no report.
* `Inspect.report` makes the report that arguments ask for.
* `Inspect.environment` is the environment with the variables of the file of variables.
* `Inspect.run` answers a command line: what is printed, and with which exit code the program ends.
  The environment comes first, even before the arguments are looked at.

How the text of a settings file is read is a parameter of all of them. That a style is not compiled
has no other cause in the answer, so it does not matter which fault of its layers is reported.
-/

set_option autoImplicit false

namespace StyledMap.Inspect

/-- Why an inspection gives no report. -/
inductive Failure
  | configUnreadable (path : String)
  | configMalformed (path : String)
  | configInvalid (fault : InvalidDuration)
  | featureMalformed
  | notLoaded (style : String)
  | notCompiled

def Failure.message : Failure → String
  | configUnreadable path => s!"Failed to read config file: {path}"
  | configMalformed path => s!"Failed to parse config file: {path}"
  | configInvalid fault => fault.message
  | featureMalformed => "Failed to parse --feature"
  | notLoaded style => s!"Failed to load style {style}"
  | notCompiled => "Failed to compile style"

def settingsFile (read : SettingsReader) (a : Arguments) (resources : Resources) :
    Except Failure (Option SettingsFile) :=
  match a.config with
  | none => .ok none
  | some path =>
    match resources.file path with
    | .error _ => .error (.configUnreadable path)
    | .ok text =>
      match read text with
      | none => .error (.configMalformed path)
      | some file => .ok (some file)

def settings (read : SettingsReader) (a : Arguments) (resources : Resources) :
    Except Failure Settings := do
  let file ← settingsFile read a resources
  (Settings.resolve file ⟨a.accessToken, a.apiRoot, a.pixelRatio⟩).mapError .configInvalid

/-- The feature that arguments name, by default a blank one. -/
def feature (a : Arguments) : Except Failure Feature :=
  match a.feature with
  | none => .ok (Feature.blank .unknown)
  | some text =>
    match Feature.ofText? text with
    | some f => .ok f
    | none => .error .featureMalformed

/-- The report that arguments ask for. Settings come first, then the feature, then the style. -/
def report (read : SettingsReader) (a : Arguments) (resources : Resources) :
    Except Failure Report := do
  let settings ← settings read a resources
  let feature ← feature a
  let loader : Loader := ⟨Provider.ofSettings settings, a.strict⟩
  let (loaded, _) := (loader.load (Input.ofArgument a.style)).runWith resources
  match loaded with
  | .error _ => .error (.notLoaded a.style)
  | .ok loaded =>
    match loaded.compile .first with
    | .error _ => .error .notCompiled
    | .ok compiled => return Report.of loaded compiled a.zoom feature

/-- How a program ends: its exit code and what it prints. -/
structure Ending where
  exitCode : UInt32
  output : String
  errors : String

/-- The ending of a command line that asks for no inspection. -/
def endingOfStop : Arguments.Stop → Ending
  | .help => ⟨0, Arguments.helpText ++ "\n", ""⟩
  | .usage => ⟨2, "", Arguments.usageText ++ "\n"⟩

def ending (result : Except Failure Report) : Ending :=
  match result with
  | .ok r => ⟨0, r.toJson.indented 0 ++ "\n", ""⟩
  | .error failure => ⟨1, "", "Error: " ++ failure.message ++ "\n"⟩

def endingOfUnassignable (cause : Environment.Unassignable) : Ending :=
  ⟨101, "", cause.message ++ "\n"⟩

def variablesFile : String := ".env"

/-- An environment with the variables of the file of variables, if it can be read. -/
def environment (given : Environment) (resources : Resources) :
    Except Environment.Unassignable Environment :=
  match resources.file variablesFile with
  | .ok text => given.extendedBy text
  | .error _ => .ok given

def run (read : SettingsReader) (arguments : List String) (given : Environment)
    (resources : Resources) : Ending :=
  match environment given resources with
  | .error cause => endingOfUnassignable cause
  | .ok env =>
    match Arguments.parse arguments env with
    | .error stop => endingOfStop stop
    | .ok a => ending (report read a resources)

def namedFiles (arguments : List String) (given : Environment) (resources : Resources) :
    List String :=
  match environment given resources with
  | .error _ => []
  | .ok env =>
    match Arguments.parse arguments env with
    | .error _ => []
    | .ok a => a.config.toList ++ [a.style]

end StyledMap.Inspect
