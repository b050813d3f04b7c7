import TripProposal.Files.Tree
import TripProposal.Settings.Basic

/-!
# Loading settings

Settings are loaded from the file that the environment names, or else from the one that comes with
the program, and variables of the environment take the place of some of them. A library for layered
configurations reads the file, merges it with the defaults and turns the result into settings.
Nothing is assumed of the library: what it makes of a file may depend on all files and on the whole
environment.
-/

namespace TripProposal

/-- A library for layered configurations. -/
structure SettingsLibrary (Fault Document Config : Type) where
  read : FileTree → Path → Except Fault Document
  merge : Document → Except Fault Config
  /-- Put a text in the place of the setting with a name. -/
  put : Text → Text → Config → Except Fault Config
  /-- The settings that a configuration spells, in which variables of the environment may be named. -/
  toSettings : List (Text × Text) → Config → Except Fault Settings

/-- Files and environment variables that settings depend on. -/
structure SettingsHost where
  files : FileTree := {}
  /-- The environment; the first of several entries for a variable counts. -/
  environment : List (Text × Text) := []
  /-- The path of the file that comes with the program. -/
  packaged : Path := [Path.rootPart, "config", "render_settings.yaml"]

namespace SettingsHost

/-- Write a file. -/
def writeFile (host : SettingsHost) (path text : Text) : SettingsHost :=
  { host with files := host.files.write (Path.parse path) text }

/-- Set a variable, or remove it. -/
def setVariable (host : SettingsHost) (name : Text) (value : Option Text) : SettingsHost :=
  let others := host.environment.filter (·.1 ≠ name)
  { host with
    environment := match value with
      | some v => (name, v) :: others
      | none => others }

/-- The variable that names the file of the settings. -/
def settingsVariable : Text := "PORTER_SETTINGS_PATH"

/-- The file of the settings. -/
def source (host : SettingsHost) : Path :=
  match host.environment.lookup settingsVariable with
  | some path => Path.parse path
  | none => host.packaged

/-- The variables that override settings, with the names of the settings. -/
def overrides : List (Text × Text) :=
  [("GOOGLE_MAPS_API_KEY", "google_maps_api_key"), ("PORTER_API_ENDPOINT", "api_endpoint")]

section Loading

variable {Fault Document Config : Type} (library : SettingsLibrary Fault Document Config)

/-- A configuration with a variable in the place of a setting, if the variable is filled. -/
def override (host : SettingsHost) (config : Config) (entry : Text × Text) :
    Except Fault Config :=
  match host.environment.lookup entry.1 with
  | some text => if text = "" then .ok config else library.put entry.2 text config
  | none => .ok config

/-- Load the settings of a file. -/
def load (host : SettingsHost) (path : Path) : Except Fault Settings := do
  let config ← library.merge (← library.read host.files path)
  library.toSettings host.environment (← overrides.foldlM (host.override library) config)

end Loading

end SettingsHost

end TripProposal
