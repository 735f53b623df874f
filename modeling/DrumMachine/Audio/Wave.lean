import DrumMachine.Audio.Sample
import DrumMachine.Files.Fault

/-! # WAV files

A reader takes the header of WAV data off its front and says what it found: how samples are encoded,
how many of them the data chunk declares, and how the next one is taken. Which chunks stand before
the data and how a sample is laid out in bytes is the business of the reader. What is asked of it is
that it goes from the front and does not look ahead (`Reader.IsLawful`).

`decode` takes as many samples as are declared, scales whole numbers into [-1, 1], and folds all
channels into one by taking their mean. -/

namespace DrumMachine

/-- **Why a sample cannot be loaded.** -/
inductive SampleError where
  /-- The file cannot be opened. -/
  | cannotOpen (path : String) (fault : Fault)
  /-- The data cannot be decoded, in the words of its reader. -/
  | cannotDecode (reason : String)
  /-- There are no frames. -/
  | empty
  /-- The rate is zero. -/
  | zeroRate
  deriving DecidableEq, Repr

namespace SampleError

/-- The text of a sample error. -/
def message : SampleError → String
  | cannotOpen path fault => "cannot open sample " ++ path ++ ": " ++ fault.message
  | cannotDecode reason => "cannot decode WAV: " ++ reason
  | empty => "WAV file contains no samples"
  | zeroRate => "WAV sample rate is zero"

/-- The causes of a sample error. -/
def causes : SampleError → List String
  | cannotOpen _ fault => [fault.message]
  | cannotDecode reason => [reason]
  | empty | zeroRate => []

end SampleError

namespace Wave

/-! ## Readers -/

/-- **A way to take something off the front of bytes**: what was taken and the bytes that are left,
or why nothing could be taken. -/
abbrev Take (α : Type) := List UInt8 → Except String (α × List UInt8)

/-- Whether samples are whole numbers or single-precision numbers. -/
inductive Encoding where
  | integer
  | float
  deriving DecidableEq, Repr

/-- **What a header says of all samples.** -/
structure Spec where
  channels : UInt16
  /-- Frames per second. -/
  rate : UInt32
  /-- Bits of a sample. -/
  bits : UInt16
  encoding : Encoding
  deriving DecidableEq, Repr

/-- **The header of a file**: all that comes before its samples. -/
structure Header where
  spec : Spec
  /-- How many samples the data chunk declares, those of all channels together. -/
  count : Nat
  /-- Takes the next sample as a whole number. -/
  integer : Take Int32
  /-- Takes the next sample as a single-precision number. -/
  float : Take Float32

/-- **A reader of WAV data.** -/
abbrev Reader := Take Header

/-- **What is taken is settled by its bytes**: it is always some bytes at the front, and wherever
these bytes stand in front the same is taken, whatever follows them. -/
def Settled {α : Type} (take : Take α) : Prop :=
  ∀ bytes answer rest, take bytes = .ok (answer, rest) →
    ∃ taken, bytes = taken ++ rest ∧ ∀ other, take (taken ++ other) = .ok (answer, other)

/-- **Takes `count` samples one after the other**; the first one that cannot be taken decides. -/
def collect {α : Type} (take : Take α) : (count : Nat) → Take (List α)
  | 0, bytes => .ok ([], bytes)
  | count + 1, bytes =>
    match take bytes with
    | .error reason => .error reason
    | .ok (sample, rest) =>
      match collect take count rest with
      | .error reason => .error reason
      | .ok (samples, rest) => .ok (sample :: samples, rest)

/-- What whole numbers of `bits` bits are divided by. -/
def scale (bits : UInt16) : Float32 := ((1 : UInt64) <<< (max bits 1 - 1).toUInt64).toFloat32

/-- **Takes all samples that a header declares.** -/
def Header.samples (header : Header) : Take (List Float32) := fun bytes =>
  match header.spec.encoding with
  | .float => collect header.float header.count bytes
  | .integer =>
    match collect header.integer header.count bytes with
    | .error reason => .error reason
    | .ok (samples, rest) =>
      .ok (samples.map fun sample => sample.toFloat32 / scale header.spec.bits, rest)

/-- **Folds channels into one**: the mean of each group of `channels` samples. -/
def foldChannels (channels : Nat) : (left : Nat) → (sum : Float32) → List Float32 → List Float32
  | _, _, [] => []
  | 0, sum, sample :: rest =>
    (sum + sample) / channels.toUInt64.toFloat32 :: foldChannels channels (channels - 1) (-0.0) rest
  | left + 1, sum, sample :: rest => foldChannels channels left (sum + sample) rest

/-- The frames of a file with some samples. -/
def Header.frames (header : Header) (samples : List Float32) : List Float32 :=
  let channels := max header.spec.channels.toNat 1
  foldChannels channels (channels - 1) (-0.0) samples

/-- **Decodes WAV data into a sample.** -/
def decode (reader : Reader) (bytes : List UInt8) : Except SampleError Sample :=
  match reader bytes with
  | .error reason => .error (.cannotDecode reason)
  | .ok (header, data) =>
    if header.spec.rate = 0 then .error .zeroRate
    else
      match header.samples data with
      | .error reason => .error (.cannotDecode reason)
      | .ok (samples, _) =>
        match header.frames samples with
        | [] => .error .empty
        | frame :: frames => .ok ⟨frame :: frames, header.spec.rate⟩

end Wave

end DrumMachine
