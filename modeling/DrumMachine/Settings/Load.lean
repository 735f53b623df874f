import DrumMachine.Files.Tree
import DrumMachine.Settings.Record

/-! # Loading settings

A settings file is read, then taken as YAML or TOML by the extension of its path, and then checked
for flaws. The first stage that fails says why. Each format has a reader. -/

namespace DrumMachine

/-- **The formats of settings.** -/
inductive SettingsFormat where
  | yaml
  | toml
  deriving DecidableEq, Repr

namespace SettingsFormat

/-- The format that the extension of a path stands for. -/
def ofPath? (path : String) : Option SettingsFormat :=
  match Path.extension? path with
  | some "yaml" | some "yml" => some .yaml
  | some "toml" => some .toml
  | _ => none

/-- The name of a format. -/
def name : SettingsFormat → String
  | yaml => "YAML"
  | toml => "TOML"

end SettingsFormat

/-- **Why settings cannot be loaded.** -/
inductive LoadError where
  /-- The file cannot be read. -/
  | unreadable (path : String) (fault : Fault)
  /-- The path has no extension that stands for a format. -/
  | unsupported (path : String)
  /-- The text is not in the format, or holds no settings; the reason is in the reader's words. -/
  | unparsable (format : SettingsFormat) (reason : String)
  /-- The settings have a flaw. -/
  | flawed (path : String) (flaw : SettingsFlaw)
  deriving DecidableEq, Repr

namespace LoadError

/-- **A load error as a failure.** -/
def failure : LoadError → Failure
  | unreadable path fault =>
    ⟨"Failed to read settings file: " ++ Text.Quoted.encode path, [fault.message]⟩
  | unsupported path =>
    ⟨"Unsupported settings format: " ++ Text.Quoted.encode path ++ " (use .yaml or .toml)", []⟩
  | unparsable format reason =>
    ⟨"Failed to parse " ++ format.name ++ " settings", [reason]⟩
  | flawed path flaw => ⟨"Invalid settings in " ++ Text.Quoted.encode path, [flaw.message]⟩

end LoadError

namespace Settings

/-- **Reads settings in a format.** -/
def parse (readers : SettingsFormat → Serial.Reader) (format : SettingsFormat) (text : String) :
    Except LoadError Settings :=
  match ofText (readers format) text with
  | .error reason => .error (.unparsable format reason)
  | .ok settings => .ok settings

/-- **Settings as YAML**, if they can be written. -/
def toYaml (writer : Serial.Writer) (settings : Settings) : Except Failure String :=
  match writer settings.fields with
  | .error reason => .error ⟨"Failed to serialize settings to YAML", [reason]⟩
  | .ok text => .ok text

/-- **Loads settings from a file.** -/
def load (readers : SettingsFormat → Serial.Reader) (files : Files) (path : String) :
    Except LoadError Settings :=
  match files.readText path with
  | .error fault => .error (.unreadable path fault)
  | .ok text =>
    match SettingsFormat.ofPath? path with
    | none => .error (.unsupported path)
    | some format =>
      match parse readers format text with
      | .error e => .error e
      | .ok settings =>
        match settings.flaw? with
        | some flaw => .error (.flawed path flaw)
        | none => .ok settings

end Settings

end DrumMachine
