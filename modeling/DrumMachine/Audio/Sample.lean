/-! # Drum samples

A sample is a mono sound: frames and the rate at which they follow each other. It is brought to
another rate by linear interpolation between neighbouring frames. Positions are computed in double
and frames in single precision. -/

namespace DrumMachine

/-- **A mono sound.** -/
structure Sample where
  frames : List Float32
  /-- Frames per second. -/
  rate : UInt32

namespace Sample

/-- The number of frames. -/
def length (sample : Sample) : Nat := sample.frames.length

/-- Whether there is nothing to hear. -/
def isEmpty (sample : Sample) : Bool := sample.frames.isEmpty

/-- The least whole number not below a non-negative value. -/
def ceiling (x : Float) : Nat :=
  let whole := x.toUInt64
  if whole.toFloat < x then whole.toNat + 1 else whole.toNat

/-- A count as a double. -/
def ofCount (n : Nat) : Float := n.toUInt64.toFloat

/-- How far one frame at the rate `new` goes in frames at the rate `old`. -/
def stride (old new : UInt32) : Float := old.toFloat / new.toFloat

/-- The frame at position `position` of `frames`, between its neighbours; past the last frame the
last one is its own neighbour. -/
def between (frames : Array Float32) (position : Float) : Float32 :=
  let last := frames.size - 1
  let index := min position.toUInt64.toNat last
  let fraction := (position - ofCount index).toFloat32
  let here := frames.getD index 0
  let next := frames.getD (min (index + 1) last) 0
  here + (next - here) * fraction

/-- **Whether a change to `rate` leaves the frames as they are**: the rate is the same, or one of
the two is zero, or there are no two frames to interpolate between. -/
def keepsFrames (sample : Sample) (rate : UInt32) : Bool :=
  rate == sample.rate || rate == 0 || sample.rate == 0 || sample.length < 2

/-- The number of frames at another rate. -/
def resampledLength (sample : Sample) (rate : UInt32) : Nat :=
  ceiling (ofCount sample.length / stride sample.rate rate)

/-- **The sample at another rate.** -/
def resampled (sample : Sample) (rate : UInt32) : Sample :=
  if sample.keepsFrames rate then ⟨sample.frames, rate⟩
  else
    let frames := sample.frames.toArray
    let step := stride sample.rate rate
    ⟨(List.range (sample.resampledLength rate)).map fun i =>
      between frames (ofCount i * step), rate⟩

/-- What is between frames is computed from two neighbours: the frame at the whole part of the
position, or the last one if that is past the end, and the one after it. -/
theorem between_toArray {frames : List Float32} (h : frames ≠ []) (position : Float) :
    ∃ index here next, index = min position.toUInt64.toNat (frames.length - 1) ∧
      frames[index]? = some here ∧ frames[min (index + 1) (frames.length - 1)]? = some next ∧
      between frames.toArray position =
        here + (next - here) * (position - ofCount index).toFloat32 := by
  have hpos : 0 < frames.length := List.length_pos_iff.mpr h
  have hindex : min position.toUInt64.toNat (frames.length - 1) < frames.length := by omega
  have hnext : min (min position.toUInt64.toNat (frames.length - 1) + 1) (frames.length - 1) <
      frames.length := by omega
  refine ⟨_, _, _, rfl, List.getElem?_eq_getElem hindex, List.getElem?_eq_getElem hnext, ?_⟩
  simp [between, Array.getD_eq_getD_getElem?, hindex, hnext]

/-- **A sample that is brought to another rate keeps its frames, or is interpolated**: then its
`i`th frame is that between the frames around `i` strides. -/
theorem getElem?_frames_resampled (sample : Sample) (rate : UInt32) (i : Nat) :
    (sample.resampled rate).frames[i]? =
      if sample.keepsFrames rate then sample.frames[i]?
      else if i < sample.resampledLength rate then
        some (between sample.frames.toArray (ofCount i * stride sample.rate rate))
      else none := by
  by_cases hkeeps : sample.keepsFrames rate = true
  · simp [resampled, hkeeps]
  · by_cases hi : i < sample.resampledLength rate
    · simp [resampled, hkeeps, hi]
    · simp [resampled, hkeeps, hi]

/-- A sample that is brought to a rate has it. -/
@[simp] theorem rate_resampled (sample : Sample) (rate : UInt32) :
    (sample.resampled rate).rate = rate := by
  unfold resampled; split <;> rfl

/-- A change of rate gives as many frames as `resampledLength` says, where it gives new ones. -/
theorem length_resampled_of_not_keepsFrames {sample : Sample} {rate : UInt32}
    (h : sample.keepsFrames rate = false) :
    (sample.resampled rate).length = sample.resampledLength rate := by
  simp [resampled, h, length]

/-- A sample at its own rate stays as it is. -/
@[simp] theorem resampled_rate (sample : Sample) : sample.resampled sample.rate = sample := by
  simp [resampled, keepsFrames]

end Sample

end DrumMachine
