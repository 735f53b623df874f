import DrumMachine.Files.Fault

/-! # Byte sinks that may misbehave

A sink takes the bytes of a write one portion at a time. It may ask for the same write again, take
less than it was offered, be full, or fail to flush; a `Manner` says which, write by write.
`Sink.writeAll` keeps offering what is left until everything is taken or the sink refuses. -/

namespace DrumMachine

/-- What a sink does with a write when it cannot take a single byte. -/
inductive Refusal where
  /-- The write fails with a fault. -/
  | fails (fault : Fault)
  /-- The write reports that it took nothing. -/
  | takesNothing
  deriving Repr

/-- **How a sink behaves.** Writes that get through are counted from zero, and so are flushes. -/
structure Manner where
  /-- How often the sink asks for the write again before it lets it through. -/
  interruptions : Nat → Nat
  /-- The most bytes that a write takes; `none` sets no limit. -/
  portion : Nat → Option Nat
  /-- The most bytes that the sink takes in all; `none` sets no limit. -/
  capacity : Option Nat
  /-- What happens to a write that cannot take a byte. -/
  refusal : Nat → Refusal
  /-- The fault of a flush, if it fails. -/
  flushFault : Nat → Option Fault

namespace Manner

/-- The manner of a sink that takes everything at once. -/
def willing : Manner where
  interruptions _ := 0
  portion _ := none
  capacity := none
  refusal _ := .takesNothing
  flushFault _ := none

end Manner

/-- **A sink**: its manner, the bytes it took, and how far its writes and flushes have come. -/
structure Sink where
  manner : Manner
  /-- The bytes taken so far. -/
  taken : Array UInt8
  /-- Writes let through so far. -/
  writes : Nat
  /-- Interruptions still to come before the next write is let through. -/
  pending : Nat
  /-- Flushes so far. -/
  flushes : Nat

/-- What a single write answers. -/
inductive WriteAnswer where
  /-- Ask again. -/
  | interrupted
  /-- So many bytes were taken. -/
  | took (count : Nat)
  /-- The write failed. -/
  | failed (fault : Fault)

namespace Sink

/-- A sink of the given manner that has taken nothing yet. -/
def new (manner : Manner) : Sink := ⟨manner, #[], 0, manner.interruptions 0, 0⟩

/-- How many of `offered` bytes the sink takes from the write it lets through next. -/
def share (sink : Sink) (offered : Nat) : Nat :=
  let portion := (sink.manner.portion sink.writes).getD offered
  let room := (sink.manner.capacity.map (· - sink.taken.size)).getD offered
  min offered (min portion room)

/-- **One write of a non-empty byte string.** -/
def write (bytes : List UInt8) (sink : Sink) : WriteAnswer × Sink :=
  match sink.pending with
  | n + 1 => (.interrupted, { sink with pending := n })
  | 0 =>
    let sharing := sink.share bytes.length
    let next := sink.writes + 1
    let sink' := { sink with
      writes := next, pending := sink.manner.interruptions next,
      taken := sink.taken.appendList (bytes.take sharing) }
    if sharing = 0 then
      match sink.manner.refusal sink.writes with
      | .fails fault => (.failed fault, sink')
      | .takesNothing => (.took 0, sink')
    else (.took sharing, sink')

/-- An interruption uses up one of those still to come. -/
theorem pending_lt_of_write_interrupted {bytes : List UInt8} {sink sink' : Sink}
    (h : sink.write bytes = (.interrupted, sink')) : sink'.pending < sink.pending := by
  unfold write at h
  split at h
  · next n hn => cases h; simp [hn]
  · next hn =>
    simp only at h
    split at h
    · split at h <;> cases h
    · cases h

/-- **Offers bytes until all are taken**: the fault that stopped it, if any, and the sink after.
An interrupted write is made again; a write that takes nothing is a fault. -/
def writeAll (bytes : List UInt8) (sink : Sink) : Option Fault × Sink :=
  if _ : bytes = [] then (none, sink)
  else
    match _ : sink.write bytes with
    | (.interrupted, sink') => writeAll bytes sink'
    | (.failed fault, sink') => (some fault, sink')
    | (.took count, sink') =>
      if count = 0 then (some .nothingWritten, sink') else writeAll (bytes.drop count) sink'
termination_by (bytes.length, sink.pending)
decreasing_by
  · exact Prod.Lex.right _ (pending_lt_of_write_interrupted ‹_›)
  · refine Prod.Lex.left _ _ ?_
    have := List.length_pos_iff.2 ‹¬bytes = []›
    rw [List.length_drop]
    omega

/-- **One flush**: its fault, if it fails. -/
def flush (sink : Sink) : Option Fault × Sink :=
  (sink.manner.flushFault sink.flushes, { sink with flushes := sink.flushes + 1 })

end Sink

end DrumMachine
