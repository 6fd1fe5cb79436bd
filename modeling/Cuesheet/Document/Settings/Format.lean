import Cuesheet.Document.Settings
import Cuesheet.Document.Settings.Yaml

/-!
Settings in either format.
-/

namespace Cuesheet.Document

/-- The formats settings can be written in. -/
inductive Format where
  | json
  | yaml
  deriving DecidableEq, Repr, Inhabited

/-- Why a text says no settings. -/
inductive SettingsError where
  | json (e : Json.Error)
  | yaml
  deriving DecidableEq, Repr, Inhabited

/-- The format of a file with a given extension: whatever is not known for YAML is JSON. -/
def Format.ofExtension (extension : Text) : Format :=
  if ["yaml", "yml"].contains (String.ofList (Text.lower extension)) then .yaml else .json

/-- The settings that a text says. -/
def readSettings (f : Format) (t : Text) : Except SettingsError UserSettings :=
  match f with
  | .json => (Json.decode userSettings t).mapError .json
  | .yaml =>
    match userSettingsOfYaml? t with
    | some u => .ok u
    | none => .error .yaml

end Cuesheet.Document
