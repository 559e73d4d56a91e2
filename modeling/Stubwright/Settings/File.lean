import Stubwright.File
import Stubwright.Settings
import Stubwright.Source

/-!
Settings kept in a YAML file. An empty document, or any other value that counts as nothing, leaves
all settings at their defaults.
-/

namespace Stubwright

inductive SettingsError where
  | malformed (path : Text)
  | unreadable (path : Text)
  | notMapping (path : Text)
  | invalid (issues : List Issue)
  /-- The file breaks the reader itself. -/
  | broken (cause : FileError)

namespace SettingsError

def message : SettingsError → Text
  | .malformed path => "Failed to parse YAML config " ++ path ++ ": " ++ Cause.yaml.mark
  | .unreadable path => "Failed to read config file " ++ path ++ ": " ++ Cause.system.mark
  | .notMapping path => "Invalid configuration format in " ++ path
  | .invalid _ => "Invalid stub generator configuration: " ++ Cause.validation.mark
  | .broken cause => cause.message

def issues : SettingsError → List Issue
  | .invalid issues => issues
  | _ => []

end SettingsError

namespace Settings

def ofProperties (environmentBinary : Option Text) (properties : Value) :
    Except SettingsError Settings :=
  match read environmentBinary properties with
  | .valid settings => .ok settings
  | .invalid issues => .error (.invalid issues)

def ofFile (environmentBinary : Option Text) (room : Yaml.Room) (path : Text)
    (file : FileContent) : Except SettingsError Settings :=
  match file.yaml room with
  | .error (.document .malformed) => .error (.malformed path)
  | .error .unreadable => .error (.unreadable path)
  | .error cause => .error (.broken cause)
  | .ok value =>
      if value.isNothing then ofProperties environmentBinary (.map [])
      else match value.unfolded with
        | .map entries => ofProperties environmentBinary (.map entries)
        | _ => .error (.notMapping path)

end Settings

end Stubwright
