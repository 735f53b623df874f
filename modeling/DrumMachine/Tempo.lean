/-! # Tempo and the step clock

A tempo is given in beats per minute, and a beat has four steps. `StepClock.new?` turns it into the
time from the start of one step to the start of the next, in whole nanoseconds. It refuses a tempo
of zero, and one so fast that the steps of a minute no longer fit into 32 bits. -/

namespace DrumMachine

/-- A number of nanoseconds in one second. -/
def nanosPerSecond : Nat := 1000000000

/-- The largest 64-bit number. -/
def maxUInt64 : Nat := 18446744073709551615

/-- **A length of time**: whole seconds and the nanoseconds beyond them. -/
structure Duration where
  seconds : Nat
  nanos : Nat
  deriving DecidableEq, Repr

namespace Duration

/-- A length of time in nanoseconds. -/
def totalNanos (d : Duration) : Nat := d.seconds * nanosPerSecond + d.nanos

/-- **Divides a length of time**: the seconds first, then the nanoseconds, and at last what was
left over of the seconds, in nanoseconds, together with what was left over of the nanoseconds. -/
def div (d : Duration) (n : Nat) : Duration :=
  ⟨d.seconds / n,
    d.nanos / n + (d.seconds % n * nanosPerSecond + d.nanos % n) / n⟩

end Duration

/-- Steps that make up one beat. -/
def stepsPerBeat : UInt32 := 4

/-- The lowest tempo. -/
def minBpm : UInt32 := 1

/-- The tempo where none is given. -/
def defaultBpm : UInt32 := 120

/-- One minute. -/
def oneMinute : Duration := ⟨60, 0⟩

/-- **A tempo that has no clock.** -/
inductive TempoError where
  | invalidBpm (bpm : UInt32)
  deriving DecidableEq, Repr

namespace TempoError

/-- The text of a tempo error. -/
def message : TempoError → String
  | invalidBpm bpm => "invalid bpm: " ++ toString bpm

end TempoError

/-- **A clock that gives every step the same time.** -/
structure StepClock where
  bpm : UInt32
  /-- From the start of a step to the start of the next. -/
  period : Duration
  deriving DecidableEq, Repr

namespace StepClock

/-- The steps of a minute, if they fit into 32 bits. -/
def stepsPerMinute? (bpm : UInt32) : Option UInt32 :=
  if bpm.toNat * stepsPerBeat.toNat < UInt32.size then some (bpm * stepsPerBeat) else none

/-- **The clock of a tempo.** -/
def new? (bpm : UInt32) : Except TempoError StepClock :=
  if bpm < minBpm then .error (.invalidBpm bpm)
  else
    match stepsPerMinute? bpm with
    | none => .error (.invalidBpm bpm)
    | some steps => .ok ⟨bpm, oneMinute.div steps.toNat⟩

/-- The clock of the default tempo. -/
def standard : StepClock := ⟨defaultBpm, oneMinute.div (defaultBpm * stepsPerBeat).toNat⟩

/-- **The length of a pass of `steps` steps.** Its seconds stay at the largest 64-bit number where
they would go beyond it. -/
def passDuration (clock : StepClock) (steps : UInt64) : Duration :=
  let nanos := clock.period.totalNanos * steps.toNat
  -- only the seconds are held back; the nanoseconds stay those of the product
  ⟨min (nanos / nanosPerSecond) maxUInt64, nanos % nanosPerSecond⟩

/-- When a step that started at `started` (in nanoseconds) gives way to the next. -/
def deadline (clock : StepClock) (started : Nat) : Nat := started + clock.period.totalNanos

/-- How long to wait at `now` for the deadline of a step that started at `started`; an overrun is
not caught up. -/
def remaining (clock : StepClock) (started now : Nat) : Nat := clock.deadline started - now

end StepClock

end DrumMachine
