import DrumMachine.Audio.Riff
import DrumMachine.Kit.Directory
import DrumMachine.Settings.Load
import DrumMachine.Toml.Records
import DrumMachine.Yaml.Records

/-! # What is installed

The readers that the program runs with, and the kits that it has with them. There is no audio device
to play through, so the acoustic kit ends with an error once its samples are loaded. -/

namespace DrumMachine.Installed

/-- **The readers of settings.** -/
def readers : SettingsFormat → Serial.Reader
  | .yaml => Yaml.reader
  | .toml => Toml.reader

/-- **The kits.** -/
def directory : Directory := .standard Riff.reader .absent

end DrumMachine.Installed
