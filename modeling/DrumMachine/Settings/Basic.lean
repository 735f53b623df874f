import DrumMachine.Catalog
import DrumMachine.Failure
import DrumMachine.Files.Path
import DrumMachine.Tempo
import DrumMachine.Text.Quoted

/-! # Settings

What a user may set: the tempo, the kit, and for the acoustic kit the directory of the samples,
their files, and the length of the output buffer. Everything has a default. `Settings.flaw?`
checks what the form of a settings file cannot: the first flaw is reported. -/

namespace DrumMachine

/-- The kit where none is given. -/
def defaultKit : String := "text"

/-- **Settings of the acoustic kit.** -/
structure AcousticSettings where
  /-- The directory of the samples. -/
  samplesDir : String
  /-- The file of each drum, seen from that directory. -/
  drums : Catalog String
  /-- The length of the output buffer in milliseconds. -/
  bufferMs : UInt32
  deriving DecidableEq

/-- **Settings.** -/
structure Settings where
  bpm : UInt32
  /-- The name of the kit. -/
  kit : String
  acoustic : AcousticSettings
  deriving DecidableEq

/-- **What is wrong with settings.** -/
inductive SettingsFlaw where
  | invalidBpm (bpm : UInt32)
  | emptyKit
  | noDrums
  | badDrumName (name : String)
  | zeroBuffer
  deriving DecidableEq, Repr

/-- The text of a flaw. -/
def SettingsFlaw.message : SettingsFlaw → String
  | invalidBpm bpm => "invalid bpm: " ++ toString bpm
  | emptyKit => "kit name is empty"
  | noDrums => "acoustic kit has no drums"
  | badDrumName name => "drum name " ++ Text.Quoted.encode name ++ " is not two ASCII characters"
  | zeroBuffer => "buffer_ms must be at least 1"

/-- **What is asked of the name of a drum**: two ASCII characters. -/
def isDrumName (name : String) : Bool :=
  name.length == 2 && name.toList.all (·.toNat < 128)

namespace AcousticSettings

/-- Three drums in the directory `samples`, and a short buffer. -/
def default : AcousticSettings where
  samplesDir := "samples"
  drums := .ofList [("HH", "hh.wav"), ("SD", "sd.wav"), ("BD", "bd.wav")]
  bufferMs := 50

/-- **The path of each drum's sample**, in the order of the drums' names. -/
def samplePaths (settings : AcousticSettings) : List (String × String) :=
  settings.drums.entries.map fun entry => (entry.1, Path.join settings.samplesDir entry.2)

/-- The first flaw of acoustic settings, if they have one. -/
def flaw? (settings : AcousticSettings) : Option SettingsFlaw :=
  if settings.drums.isEmpty then some .noDrums
  else
    match settings.drums.names.find? (!isDrumName ·) with
    | some name => some (.badDrumName name)
    | none => if settings.bufferMs = 0 then some .zeroBuffer else none

end AcousticSettings

namespace Settings

/-- The settings where nothing is set. -/
def default : Settings := ⟨defaultBpm, defaultKit, .default⟩

/-- **The first flaw of settings**, if they have one. -/
def flaw? (settings : Settings) : Option SettingsFlaw :=
  if settings.bpm < minBpm then some (.invalidBpm settings.bpm)
  else if settings.kit.isEmpty then some .emptyKit
  else settings.acoustic.flaw?

end Settings

end DrumMachine
