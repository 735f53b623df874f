import DrumMachine.Serial
import DrumMachine.Settings.Basic

/-! # Settings as records

Settings are a record of the tempo, the kit and the acoustic settings, and these are a record in
turn. Fields are read in the order in which they are given. Names of no setting are passed over, a
setting that is given twice is an error, and one that is not given has its default. -/

namespace DrumMachine

open Serial (Reader Value Writer)

namespace AcousticSettings

/-- **What is known of acoustic settings** while their fields are read. -/
structure Known where
  samplesDir : Option String := none
  drums : Option (Catalog String) := none
  bufferMs : Option UInt32 := none

/-- Reads drums with their files. Of several files for a drum the last one counts. -/
def drumsOfNode (reader : Reader) (node : reader.Node) : Except String (Catalog String) := do
  let entries ← (← reader.mapping node).mapM fun field => do
    return (field.1, ← reader.text field.2)
  return .ofList entries

/-- Reads a field of acoustic settings. -/
def Known.add (reader : Reader) (known : Known) :
    String × reader.Node → Except String Known
  | ("samples_dir", node) => do
    return { known with
      samplesDir := ← reader.once "samples_dir" reader.text known.samplesDir node }
  | ("drums", node) => do
    return { known with drums := ← reader.once "drums" (drumsOfNode reader) known.drums node }
  | ("buffer_ms", node) => do
    return { known with bufferMs := ← reader.once "buffer_ms" reader.number known.bufferMs node }
  | _ => .ok known

/-- What is known, with defaults for what is not. -/
def Known.complete (known : Known) : AcousticSettings where
  samplesDir := known.samplesDir.getD default.samplesDir
  drums := known.drums.getD default.drums
  bufferMs := known.bufferMs.getD default.bufferMs

/-- **Reads acoustic settings.** -/
def ofNode (reader : Reader) (node : reader.Node) : Except String AcousticSettings := do
  let fields := (← reader.record node).fields ["samples_dir", "drums", "buffer_ms"]
  return (← fields.foldlM (Known.add reader) {}).complete

/-- **The fields of acoustic settings.** -/
def fields (settings : AcousticSettings) : List (String × Value) :=
  [("samples_dir", .text settings.samplesDir),
    ("drums", .mapping (settings.drums.entries.map fun entry => (entry.1, .text entry.2))),
    ("buffer_ms", .number settings.bufferMs)]

end AcousticSettings

namespace Settings

/-- **What is known of settings** while their fields are read. -/
structure Known where
  bpm : Option UInt32 := none
  kit : Option String := none
  acoustic : Option AcousticSettings := none

/-- Reads a field of settings. -/
def Known.add (reader : Reader) (known : Known) : String × reader.Node → Except String Known
  | ("bpm", node) => do
    return { known with bpm := ← reader.once "bpm" reader.number known.bpm node }
  | ("kit", node) => do
    return { known with kit := ← reader.once "kit" reader.text known.kit node }
  | ("acoustic", node) => do
    return { known with
      acoustic := ← reader.once "acoustic" (AcousticSettings.ofNode reader) known.acoustic node }
  | _ => .ok known

/-- What is known, with defaults for what is not. -/
def Known.complete (known : Known) : Settings where
  bpm := known.bpm.getD default.bpm
  kit := known.kit.getD default.kit
  acoustic := known.acoustic.getD default.acoustic

/-- Reads settings from a node. -/
def ofNode (reader : Reader) (node : reader.Node) : Except String Settings := do
  let fields := (← reader.record node).fields ["bpm", "kit", "acoustic"]
  return (← fields.foldlM (Known.add reader) {}).complete

/-- **Reads settings from a text.** -/
def ofText (reader : Reader) (text : String) : Except String Settings := do
  ofNode reader (← reader.read text)

/-- **The fields of settings.** -/
def fields (settings : Settings) : List (String × Value) :=
  [("bpm", .number settings.bpm), ("kit", .text settings.kit),
    ("acoustic", .record settings.acoustic.fields)]

end Settings

end DrumMachine
