/-! # Faults of files and streams

What can go wrong when bytes are read or written, and the text each fault is reported with. -/

namespace DrumMachine

/-- **Why reading or writing failed.** -/
inductive Fault where
  /-- No file or directory has this path. -/
  | notFound
  /-- A path goes through something that is no directory. -/
  | notDirectory
  /-- A directory was read like a file. -/
  | isDirectory
  /-- A path, or one of its names, is too long. -/
  | nameTooLong
  /-- A path holds a NUL character. -/
  | nulInPath
  /-- A text file holds bytes that are no UTF-8. -/
  | notText
  /-- A sink took no byte of what it was given. -/
  | nothingWritten
  /-- Any other fault, with its own text. -/
  | other (text : String)
  deriving DecidableEq, Repr

namespace Fault

/-- The text a fault is reported with. -/
def message : Fault → String
  | notFound => "No such file or directory (os error 2)"
  | notDirectory => "Not a directory (os error 20)"
  | isDirectory => "Is a directory (os error 21)"
  | nameTooLong => "File name too long (os error 36)"
  | nulInPath => "file name contained an unexpected NUL byte"
  | notText => "stream did not contain valid UTF-8"
  | nothingWritten => "failed to write whole buffer"
  | other text => text

end Fault

end DrumMachine
