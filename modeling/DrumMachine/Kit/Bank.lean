import DrumMachine.Audio.Wave
import DrumMachine.Files.Tree
import DrumMachine.Kit.Error
import DrumMachine.Log
import DrumMachine.Settings.Basic

/-! # The sample bank

A bank holds a sample for each drum, all at one rate: that of the sample it was given first. -/

namespace DrumMachine

/-- **A sample for each drum**, all at one rate. -/
structure Bank where
  samples : Catalog Sample
  rate : UInt32

namespace Bank

/-- **The bank of a list of named samples**, all brought to the rate of the first. Of samples with
the same name the last one counts. -/
def ofSamples : List (String × Sample) → Except KitError Bank
  | [] => .error .noDrums
  | (name, sample) :: rest =>
    .ok ⟨.ofList <| ((name, sample) :: rest).map fun entry =>
      (entry.1, entry.2.resampled sample.rate), sample.rate⟩

/-- The sample of a drum. -/
def get? (name : String) (bank : Bank) : Option Sample := bank.samples.get? name

/-- Loads the sample at a path, with a reader of WAV data. A directory is opened like a file, but
its reader gets nothing but a fault. -/
def loadSample (reader : Wave.Reader) (files : Files) (path : String) :
    Except SampleError Sample :=
  match files path with
  | .error fault => .error (.cannotOpen path fault)
  | .ok .directory => .error (.cannotDecode Fault.isDirectory.message)
  | .ok (.file bytes) => Wave.decode reader bytes

/-- What is logged of a sample that was loaded. -/
def loadEntry (drum path : String) (sample : Sample) : LogEntry :=
  ⟨.debug, "loaded sample",
    [("drum", Text.Quoted.encode drum), ("path", path), ("frames", toString sample.length)]⟩

/-- Loads the samples at the given paths, in order; the first that cannot be loaded decides. -/
def loadAll (reader : Wave.Reader) (files : Files) :
    List (String × String) → List LogEntry × Except KitError (List (String × Sample))
  | [] => ([], .ok [])
  | (drum, path) :: rest =>
    match loadSample reader files path with
    | .error e => ([], .error (.sample drum e))
    | .ok sample =>
      match loadAll reader files rest with
      | (log, .error e) => (loadEntry drum path sample :: log, .error e)
      | (log, .ok samples) => (loadEntry drum path sample :: log, .ok ((drum, sample) :: samples))

/-- **Loads the bank of acoustic settings**, together with what is logged on the way. -/
def load (reader : Wave.Reader) (files : Files) (settings : AcousticSettings) :
    List LogEntry × Except KitError Bank :=
  match loadAll reader files settings.samplePaths with
  | (log, .error e) => (log, .error e)
  | (log, .ok samples) => (log, ofSamples samples)

end Bank

end DrumMachine
