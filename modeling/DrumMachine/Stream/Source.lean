import DrumMachine.Files.Fault

/-! # Byte sources and their lines

A source hands over its bytes in deliveries of any size; between them it may be interrupted, which
means no more than "ask again", and it may fail for good. `Source.lines` cuts what it delivers into
lines at every line feed. A line goes through any number of deliveries, and what stands after the
last line feed is a line of its own if the source comes to its end, but is dropped if it fails. -/

namespace DrumMachine

/-- **What a source answers when it is asked for bytes.** -/
inductive Delivery where
  /-- At least one byte. -/
  | bytes (first : UInt8) (more : List UInt8)
  /-- Nothing this time; the same request may be made again. -/
  | interrupted
  /-- Nothing from here on. -/
  | failed (fault : Fault)
  deriving Repr

/-- **A byte source**: its answers, in order. After the last one it is at its end. -/
abbrev Source := List Delivery

/-- The line feed, which ends a line. -/
def lineFeed : UInt8 := 0x0A

/-- **Cuts bytes at every line feed**: the lines that are ended by one, without it, and the bytes
after the last. -/
def cutLines : List UInt8 → List (List UInt8) × List UInt8
  | [] => ([], [])
  | b :: bs =>
    if b = lineFeed then ([] :: (cutLines bs).1, (cutLines bs).2)
    else
      match cutLines bs with
      | ([], remainder) => ([], b :: remainder)
      | (line :: lines, remainder) => ((b :: line) :: lines, remainder)

/-- There are no lines in nothing. -/
@[simp] theorem cutLines_nil : cutLines [] = ([], []) := rfl

/-- A line feed ends a line before it. -/
@[simp] theorem cutLines_lineFeed (bs : List UInt8) :
    cutLines (lineFeed :: bs) = ([] :: (cutLines bs).1, (cutLines bs).2) := by
  simp [cutLines]

/-- **The lines of a source and how it ended**: `none` at its end, or the fault it failed with. -/
structure Lines where
  lines : List (List UInt8)
  fault : Option Fault
  deriving Repr

namespace Source

/-- Delivers `bytes` in one piece. -/
def ofBytes : List UInt8 → Source
  | [] => []
  | b :: bs => [.bytes b bs]

/-- **Delivers `bytes` in pieces of at most `size` bytes**; a size of zero sets no limit. -/
def ofPieces (size : Nat) (bytes : List UInt8) : Source :=
  match size, bytes with
  | 0, bytes => ofBytes bytes
  | _ + 1, [] => []
  | n + 1, b :: bs => .bytes b (bs.take n) :: ofPieces (n + 1) (bs.drop n)
termination_by bytes.length

/-- Puts an interruption before every delivery. -/
def interruptEach (source : Source) : Source :=
  source.flatMap fun delivery => [.interrupted, delivery]

/-- The bytes a source delivers before it ends or fails. -/
def delivered : Source → List UInt8
  | [] => []
  | .bytes b bs :: rest => b :: bs ++ delivered rest
  | .interrupted :: rest => delivered rest
  | .failed _ :: _ => []

/-- The fault a source fails with, if it fails. -/
def fault? : Source → Option Fault
  | [] => none
  | .bytes _ _ :: rest => fault? rest
  | .interrupted :: rest => fault? rest
  | .failed fault :: _ => some fault

/-- Reads the lines of a source of which `pending` is already read of the line at the front. -/
def linesFrom (pending : List UInt8) : Source → Lines
  | [] => ⟨if pending.isEmpty then [] else [pending], none⟩
  | .interrupted :: rest => linesFrom pending rest
  | .failed fault :: _ => ⟨[], some fault⟩
  | .bytes b bs :: rest =>
    match cutLines (b :: bs) with
    | ([], remainder) => linesFrom (pending ++ remainder) rest
    | (line :: lines, remainder) =>
      let after := linesFrom remainder rest
      ⟨(pending ++ line) :: lines ++ after.lines, after.fault⟩

/-- **The lines of a source**, without their line feeds. -/
def lines (source : Source) : Lines := linesFrom [] source

/-- One piece delivers all bytes. -/
@[simp] theorem delivered_ofBytes (bytes : List UInt8) : (ofBytes bytes).delivered = bytes := by
  cases bytes <;> simp [ofBytes, delivered]

/-- One piece is delivered without a fault. -/
@[simp] theorem fault?_ofBytes (bytes : List UInt8) : (ofBytes bytes).fault? = none := by
  cases bytes <;> simp [ofBytes, fault?]

end Source

end DrumMachine
