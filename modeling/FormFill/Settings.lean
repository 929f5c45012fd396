import FormFill.Files.Text
import FormFill.Options
import FormFill.Settings.Variables

namespace FormFill

/-- What holds for every run unless it is said otherwise. -/
structure Settings where
  recordPath : String
  formPath : String
  storePath : String
  safePresets : SafePresets
  browserChannel : Option String
  debug : Bool
  logLevel : String
  logFormat : String
deriving DecidableEq, Repr

/-- Why there are no settings. -/
inductive SettingsFault where
  | undecodable
  | invalid (issues : List Schema.Issue)
deriving DecidableEq, Repr

namespace Settings

open Schema

def default : Settings :=
  { recordPath := "listing.json", formPath := "selectors.json", storePath := ".last-sku",
    safePresets := ⟨100, 90, 300⟩, browserChannel := none, debug := false, logLevel := "INFO",
    logFormat := "console" }

def textAttribute (name fallback : String) : Attribute String :=
  ⟨[name], readText, some fallback⟩

def timeAttribute (name : String) (fallback : Int) : Attribute Int :=
  ⟨[name], readInt, some fallback⟩

def ofMembers (members : Members) : Checked Settings :=
  let presets := default.safePresets
  (Checked.valid fun recordPath formPath storePath slowMotion typingDelay betweenFieldsDelay =>
      Settings.mk recordPath formPath storePath ⟨slowMotion, typingDelay, betweenFieldsDelay⟩)
    |>.apply ((textAttribute "json_path" default.recordPath).of members)
    |>.apply ((textAttribute "selectors_path" default.formPath).of members)
    |>.apply ((textAttribute "last_sku_file" default.storePath).of members)
    |>.apply ((timeAttribute "safe_slow_mo_ms" presets.slowMotion).of members)
    |>.apply ((timeAttribute "safe_typing_delay_ms" presets.typingDelay).of members)
    |>.apply ((timeAttribute "safe_between_fields_delay_ms" presets.betweenFieldsDelay).of members)
    |>.apply ((Attribute.optional ["browser_channel"]).of members)
    |>.apply ((Attribute.flag ["debug"] default.debug).of members)
    |>.apply ((textAttribute "log_level" default.logLevel).of members)
    |>.apply ((textAttribute "log_format" default.logFormat).of members)

/-- The settings by name. -/
def names : List String :=
  ["json_path", "selectors_path", "last_sku_file", "safe_slow_mo_ms", "safe_typing_delay_ms",
   "safe_between_fields_delay_ms", "browser_channel", "debug", "log_level", "log_format"]

/-- The variable that a setting is read from, in lower case. -/
def variableName (name : String) : String :=
  "formpilot_" ++ name

/-- The settings that variables give; those of the environment win over those of a file. -/
def ofVariables (environment file : Variables) : Checked Settings :=
  ofMembers <| names.filterMap fun name =>
    let source := variableName name
    ((environment.valueOf source).or (file.valueOf source)).map fun value =>
      (name, .str (String.ofList value))

/-- The file of variables in the working directory. -/
def filePath : Path := .below [".env"]

/-- Reads the settings from the environment and from the file of variables, if there is one. -/
def load (environment : List (String × String)) (files : Files) : Except SettingsFault Settings :=
  let environment := Variables.ofEnvironment environment
  let finish (text : List Char) : Except SettingsFault Settings :=
    match ofVariables environment (.ofAssignments environment (Assignment.readAll text)) with
    | .valid settings => .ok settings
    | .invalid issues => .error (.invalid issues)
  match files.readText filePath with
  | .ok text => finish text
  | .error (.file _) => finish []
  | .error .undecodable => .error .undecodable

end Settings
end FormFill
