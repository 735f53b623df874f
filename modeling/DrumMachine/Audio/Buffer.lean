import DrumMachine.Log

/-! # Audio output

A device is asked for a rate and for a short buffer, so that a drum is heard at once. Whether it can
play such a stream, and on how many channels, is up to the device. -/

namespace DrumMachine

/-- **Rate and buffer length asked of a device.** -/
structure BufferConfig where
  /-- Frames per second. -/
  rate : UInt32
  /-- Frames of one buffer. -/
  frames : UInt32
  deriving DecidableEq, Repr

namespace BufferConfig

/-- **A buffer of `ms` milliseconds**, never empty and never beyond 32 bits of frames. -/
def ofLatency (rate ms : UInt32) : BufferConfig :=
  ⟨rate, (max 1 (min (rate.toNat * ms.toNat / 1000) (UInt32.size - 1))).toUInt32⟩

/-- A buffer of 50 milliseconds at 44100 frames per second. -/
def default : BufferConfig := ofLatency 44100 50

/-- The time that one buffer covers, in milliseconds. -/
def latencyMs (config : BufferConfig) : Float :=
  config.frames.toFloat * 1000 / config.rate.toFloat

example : default.frames = 2205 := by decide

end BufferConfig

/-- **Why sound cannot be played.** -/
inductive AudioError where
  | noDevice
  | streamFailed (reason : String)
  deriving DecidableEq, Repr

namespace AudioError

/-- The text of an audio error. -/
def message : AudioError → String
  | noDevice => "no audio output device available"
  | streamFailed reason => "audio stream failed: " ++ reason

end AudioError

/-- **A stream that is being played.** -/
structure AudioStream where
  /-- The name of the device, if it tells. -/
  device? : Option String
  channels : UInt16

/-- **An audio device**: what comes of asking it for a stream. -/
abbrev AudioDevice := BufferConfig → Except AudioError AudioStream

/-- Where there is no device. -/
def AudioDevice.absent : AudioDevice := fun _ => .error .noDevice

/-- What is logged of a stream when it has been started. -/
def AudioStream.entry (config : BufferConfig) (stream : AudioStream) : LogEntry :=
  ⟨.info, "audio output started",
    [("device", stream.device?.getD "unknown"), ("channels", toString stream.channels),
      ("sample_rate", toString config.rate), ("latency_ms", toString config.latencyMs)]⟩

end DrumMachine
