import StandingQuery.Settings.Decode
import StandingQuery.Settings.Environment
import StandingQuery.Toml.Document

/-!
# Loading settings

Settings come from a TOML file and, over it, from the environment. A file that is not there is no error, since every setting has
a default.
-/

namespace StandingQuery.Settings

/-- What is said of a text that is no TOML. -/
def unreadable : SettingsError := ⟨"TOML parse error"⟩

/-- What is said when an operation would never be attempted. -/
def noAttempts : SettingsError := ⟨"retry.max_attempts must be at least 1"⟩

/-- The layer of settings that a TOML text holds. -/
def layerOf (source : SettingSource) (text : String) : Except SettingsError Setting.Members :=
  match Toml.parse text with
  | some members => .ok (Setting.ofMembers source members)
  | none => .error unreadable

/-- The settings that merged layers hold, checked. -/
def check (home : Option String) (layers : Setting.Members) : Except SettingsError Settings :=
  match ofLayers home layers with
  | .error f => .error ⟨f.message⟩
  | .ok s => if s.retry.maxAttempts = 0 then .error noAttempts else .ok s

/-- The settings that a TOML text holds. -/
def ofText (home : Option String) (text : String) : Except SettingsError Settings := do
  check home (← layerOf .text text)

/-- The path of the settings file: the one given, or else the one below the home directory. -/
def filePath (home given : Option String) : String := given.getD (settingsDirectory home ++ "/beacon.toml")

/-- The settings of a file and an environment; `read` gives the text of a file that is there. -/
def load (home given : Option String) (read : String → Option String) (vars : List (String × String)) :
    Except SettingsError Settings := do
  let path := filePath home given
  let file ← match read path with
    | some text => layerOf (.file path) text
    | none => .ok []
  check home (Setting.mergeMembers file (Environment.settings vars))

end StandingQuery.Settings
