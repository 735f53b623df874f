import DrumMachine.Kit.Basic

/-! # The directory of kits

A kit is chosen by its name. The directory lists the kits with what they do and how each is built
from settings. The acoustic kit needs a reader for its samples and a device to play them. -/

namespace DrumMachine

/-- **A kit that can be chosen.** -/
structure KitEntry where
  name : String
  /-- What the kit does, in a line. -/
  description : String
  /-- Builds the kit, together with what is logged on the way. -/
  build : Files → Settings → List LogEntry × Except KitError Kit

namespace KitEntry

/-- The kit that prints. -/
def text : KitEntry where
  name := "text"
  description := "prints drum names to standard output"
  build _ _ := ([], .ok .printing)

/-- What is logged of the acoustic kit when it can be played. -/
def readyEntry (bank : Bank) : LogEntry :=
  let drums : Text.Listing :=
    .list (bank.samples.names.map fun name => .leaf (Text.Quoted.encode name))
  ⟨.info, "acoustic kit ready",
    [("drums", drums.inline), ("sample_rate", toString bank.rate)]⟩

/-- **The kit that plays samples.** The device is asked for a stream once all samples are loaded, at
the rate that they have. -/
def acoustic (reader : Wave.Reader) (device : AudioDevice) : KitEntry where
  name := "acoustic"
  description := "plays WAV samples through the default audio device"
  build files settings :=
    match Bank.load reader files settings.acoustic with
    | (log, .error e) => (log, .error e)
    | (log, .ok bank) =>
      let config := BufferConfig.ofLatency bank.rate settings.acoustic.bufferMs
      match device config with
      | .error e => (log, .error (.audio e))
      | .ok stream => (log ++ [stream.entry config, readyEntry bank], .ok (.sampled bank))

end KitEntry

/-- **A directory of kits.** -/
abbrev Directory := List KitEntry

namespace Directory

/-- **All kits there are**, with what the acoustic one needs. -/
def standard (reader : Wave.Reader) (device : AudioDevice) : Directory :=
  [.text, .acoustic reader device]

/-- The first kit of a name, with its place in the directory. -/
def findPlace? (directory : Directory) (name : String) : Option (KitEntry × Nat) :=
  directory.zipIdx.find? (·.1.name == name)

/-- **The first kit of a name.** -/
def find? (directory : Directory) (name : String) : Option KitEntry :=
  List.find? (·.name == name) directory

/-- The names of all kits, for messages. -/
def names (directory : Directory) : String := ", ".intercalate (directory.map (·.name))

example (reader : Wave.Reader) (device : AudioDevice) :
    names (standard reader device) = "text, acoustic" := rfl

end Directory

end DrumMachine
