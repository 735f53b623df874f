import DrumMachine.Audio.Wave

/-! # The reader of RIFF files

A RIFF file is a tag and a sequence of chunks. `readHeader` takes chunks until the data chunk: it
reads the format chunk, and skips the others. Samples are whole numbers of 8 to 32 bits or
single-precision numbers. -/

namespace DrumMachine.Riff

open Wave (Encoding Take)

/-- **What is wrong with a WAV file.** -/
inductive Flaw where
  | noRiffTag
  | noWaveTag
  | missingFormat
  | formatTooShort
  | noChannels
  | sampleTooSmall
  | inconsistentByteRate
  | raggedBits
  | zeroBits
  | formatSize
  | extensionNotEmpty
  | extensibleSize
  | floatBits
  | integerBits
  | raggedData
  | raggedChannels
  deriving DecidableEq, Repr

/-- The text of a flaw. -/
def Flaw.message : Flaw → String
  | noRiffTag => "no RIFF tag found"
  | noWaveTag => "no WAVE tag found"
  | missingFormat => "missing fmt chunk"
  | formatTooShort => "invalid fmt chunk size"
  | noChannels => "file contains zero channels"
  | sampleTooSmall => "sample bits exceeds size of sample"
  | inconsistentByteRate => "inconsistent fmt chunk"
  | raggedBits => "bits per sample is not a multiple of 8"
  | zeroBits => "bits per sample is 0"
  | formatSize => "unexpected fmt chunk size"
  | extensionNotEmpty => "unexpected WAVEFORMATEX size"
  | extensibleSize => "unexpected WAVEFORMATEXTENSIBLE size"
  | floatBits => "bits per sample is not 32"
  | integerBits => "bits per sample is not 8 or 16"
  | raggedData => "data chunk length is not a multiple of sample size"
  | raggedChannels => "invalid data chunk length"

/-- **Why WAV data cannot be decoded.** -/
inductive DecodeError where
  /-- The data ends too early. -/
  | truncated
  | illFormed (flaw : Flaw)
  /-- The format is not one of those that can be decoded. -/
  | unsupported
  /-- A sample takes more than four bytes. -/
  | tooWide
  deriving DecidableEq, Repr

/-- The text of a decoding error. -/
def DecodeError.message : DecodeError → String
  | truncated => "Failed to read enough bytes."
  | illFormed flaw => "Ill-formed WAVE file: " ++ flaw.message
  | unsupported => "The wave format of the file is not supported."
  | tooWide => "The sample has more bits than the destination type."

/-- **What a format chunk says.** -/
structure Format where
  channels : Nat
  rate : UInt32
  encoding : Encoding
  /-- Bits of a sample that count. -/
  bits : Nat
  /-- Bytes that a sample takes. -/
  width : Nat
  deriving DecidableEq, Repr

/-- The number in a byte string, least significant byte first. -/
def littleEndian : List UInt8 → Nat
  | [] => 0
  | b :: bs => b.toNat + 256 * littleEndian bs

/-- The field of `size` bytes at `offset`, as a number; it needs all of its bytes. -/
def field? (offset size : Nat) (bytes : List UInt8) : Except DecodeError Nat :=
  let found := (bytes.drop offset).take size
  if found.length < size then .error .truncated else .ok (littleEndian found)

/-- The bytes that mark integer samples in an extensible format. -/
def integerMark : List UInt8 :=
  [0x01, 0, 0, 0, 0, 0, 0x10, 0, 0x80, 0, 0, 0xAA, 0, 0x38, 0x9B, 0x71]

/-- The bytes that mark single-precision samples in an extensible format. -/
def floatMark : List UInt8 :=
  [0x03, 0, 0, 0, 0, 0, 0x10, 0, 0x80, 0, 0, 0xAA, 0, 0x38, 0x9B, 0x71]

/-- The rest of a format chunk of `size` bytes with plain integer samples: its bytes beyond the
first sixteen. -/
def integerFormat (size : Nat) (format : Format) (rest : List UInt8) :
    Except DecodeError (Format × Nat) := do
  if size ∉ [16, 18, 40] then .error (.illFormed .formatSize)
  if size = 16 then return (format, 0)
  -- the size of the extension is taken, but not checked
  let _ ← field? 0 2 rest
  if format.bits ∉ [8, 16, 24] then .error (.illFormed .integerBits)
  if size = 18 then return (format, 2)
  let _ ← field? 2 22 rest
  return (format, 24)

/-- The rest of a format chunk with single-precision samples. -/
def floatFormat (size : Nat) (format : Format) (rest : List UInt8) :
    Except DecodeError (Format × Nat) := do
  if size ∉ [16, 18] then .error (.illFormed .formatSize)
  if size = 18 then
    if (← field? 0 2 rest) ≠ 0 then .error (.illFormed .extensionNotEmpty)
  if format.bits ≠ 32 then .error (.illFormed .floatBits)
  return ({ format with encoding := .float }, if size = 18 then 2 else 0)

/-- The rest of an extensible format chunk. It may say that fewer bits count than a sample has. -/
def extensibleFormat (size : Nat) (format : Format) (rest : List UInt8) :
    Except DecodeError (Format × Nat) := do
  if size < 40 then .error (.illFormed .formatSize)
  if (← field? 0 2 rest) ≠ 22 then .error (.illFormed .extensibleSize)
  let validBits ← field? 2 2 rest
  let _ ← field? 4 20 rest
  let mark := (rest.drop 8).take 16
  -- no valid bits at all means that every bit counts
  let bits := if validBits = 0 then format.bits else validBits
  if mark = integerMark then return ({ format with bits := bits }, 24)
  else if mark = floatMark then return ({ format with bits := bits, encoding := .float }, 24)
  else .error .unsupported

/-- **Reads a format chunk of `size` bytes** at the start of `bytes`: the format, and how many
bytes it took. -/
def readFormat (size : Nat) (bytes : List UInt8) : Except DecodeError (Format × Nat) := do
  if size < 16 then .error (.illFormed .formatTooShort)
  let tag ← field? 0 2 bytes
  let channels ← field? 2 2 bytes
  let rate ← field? 4 4 bytes
  let byteRate ← field? 8 4 bytes
  let blockSize ← field? 12 2 bytes
  let bits ← field? 14 2 bytes
  if channels = 0 then .error (.illFormed .noChannels)
  let width := blockSize / channels
  -- the bits that a sample takes have to fit into 16 bits themselves
  if 65536 ≤ width * 8 ∨ width * 8 < bits then .error (.illFormed .sampleTooSmall)
  if byteRate ≠ blockSize * rate then .error (.illFormed .inconsistentByteRate)
  if bits % 8 ≠ 0 then .error (.illFormed .raggedBits)
  if bits = 0 then .error (.illFormed .zeroBits)
  let format : Format := ⟨channels, rate.toUInt32, .integer, bits, width⟩
  let rest := bytes.drop 16
  let (format, taken) ←
    match tag with
    | 0x0001 => integerFormat size format rest
    | 0x0003 => floatFormat size format rest
    | 0xFFFE => extensibleFormat size format rest
    | _ => .error .unsupported
  return (format, 16 + taken)

/-- The names of the chunks that are not skipped. -/
def formatTag : List UInt8 := [0x66, 0x6D, 0x74, 0x20]

@[inherit_doc formatTag]
def factTag : List UInt8 := [0x66, 0x61, 0x63, 0x74]

@[inherit_doc formatTag]
def dataTag : List UInt8 := [0x64, 0x61, 0x74, 0x61]

/-- **Takes chunks until the data chunk**: the format, the size of the data, and the bytes from
there on. The last format chunk before the data counts. Of a fact chunk four bytes are taken,
whatever its size. -/
def toData (format? : Option Format) : List UInt8 →
    Except DecodeError (Format × Nat × List UInt8)
  | n₀ :: n₁ :: n₂ :: n₃ :: s₀ :: s₁ :: s₂ :: s₃ :: rest =>
    let name := [n₀, n₁, n₂, n₃]
    let size := littleEndian [s₀, s₁, s₂, s₃]
    if name = formatTag then
      match readFormat size rest with
      | .error e => .error e
      | .ok (format, taken) => toData (some format) (rest.drop taken)
    -- the size of a fact chunk is not looked at
    else if name = factTag then toData format? (rest.drop 4)
    else if name = dataTag then
      match format? with
      | none => .error (.illFormed .missingFormat)
      | some format => .ok (format, size, rest)
    else if rest.length < size then .error .truncated
    else toData format? (rest.drop size)
  | _ => .error .truncated
termination_by bytes => bytes.length
decreasing_by all_goals simp only [List.length_cons, List.length_drop]; omega

/-- **Reads the header**: the format, the number of samples, and the bytes they start at. -/
def readHeader (bytes : List UInt8) : Except DecodeError (Format × Nat × List UInt8) := do
  if bytes.length < 4 then .error .truncated
  if bytes.take 4 ≠ [0x52, 0x49, 0x46, 0x46] then .error (.illFormed .noRiffTag)
  if bytes.length < 12 then .error .truncated
  if (bytes.drop 8).take 4 ≠ [0x57, 0x41, 0x56, 0x45] then .error (.illFormed .noWaveTag)
  let (format, size, data) ← toData none (bytes.drop 12)
  if size % format.width ≠ 0 then .error (.illFormed .raggedData)
  if size / format.width % format.channels ≠ 0 then .error (.illFormed .raggedChannels)
  return (format, size / format.width, data)

/-- The number of `bits` bits with the sign in the highest of them. -/
def signed (bits n : Nat) : Int :=
  if n < Nat.pow 2 (bits - 1) then n else (n : Int) - Nat.pow 2 bits

/-- Takes the bytes of one sample and decodes them. -/
def takeSample {α : Type} (width : Nat) (decode : List UInt8 → α) : Take α := fun bytes =>
  if (bytes.take width).length < width then .error DecodeError.truncated.message
  else .ok (decode (bytes.take width), bytes.drop width)

/-- Refuses samples that take `width` bytes each. -/
def refuseSample {α : Type} (width : Nat) : Take α := fun _ =>
  .error (if 4 < width then DecodeError.tooWide else .unsupported).message

/-- **Takes a sample that is a whole number.** Eight bits are unsigned, more are signed; 24 bits may
stand in four bytes, of which the highest is ignored. -/
def Format.integer (format : Format) : Take Int32 :=
  match format.width, format.bits with
  | 1, 8 => takeSample 1 fun bytes => ((littleEndian bytes : Int) - 128).toInt32
  | 2, 16 => takeSample 2 fun bytes => (signed 16 (littleEndian bytes)).toInt32
  | 3, 24 => takeSample 3 fun bytes => (signed 24 (littleEndian bytes)).toInt32
  | 4, 24 => takeSample 4 fun bytes =>
    (signed 24 (littleEndian bytes % Nat.pow 2 24)).toInt32
  | 4, 32 => takeSample 4 fun bytes => (signed 32 (littleEndian bytes)).toInt32
  | width, _ => refuseSample width

/-- **Takes a sample that is a single-precision number.** -/
def Format.float (format : Format) : Take Float32 :=
  match format.width, format.bits with
  | 4, 32 => takeSample 4 fun bytes => Float32.ofBits (littleEndian bytes).toUInt32
  | width, _ => refuseSample width

/-- **The reader of RIFF files.** -/
def reader : Wave.Reader := fun bytes =>
  match readHeader bytes with
  | .error e => .error e.message
  | .ok (format, count, data) =>
    .ok (⟨⟨format.channels.toUInt16, format.rate, format.bits.toUInt16, format.encoding⟩, count,
      format.integer, format.float⟩, data)

end DrumMachine.Riff
