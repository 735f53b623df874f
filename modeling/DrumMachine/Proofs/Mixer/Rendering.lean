import DrumMachine.Audio.Mixer
import Mathlib.Algebra.Order.Floor.Div
import Mathlib.Logic.Function.Iterate

/-! # Rendering by output frames

Rendering goes through a buffer slot by slot. Seen by output frames it is simpler: the slots of
frame `q` all get the level of the voices `q` frames later, and after the buffer the voices are as
many frames later as the buffer has frames, an incomplete last one included (`render_fst`,
`voices_render`). -/

namespace DrumMachine.Mixer

/-- **The voices `n` frames later.** -/
def later (n : Nat) (voices : List Voice) : List Voice := advance^[n] voices

/-- Nothing changes in no frames. -/
@[simp] theorem later_zero (voices : List Voice) : later 0 voices = voices := rfl

/-- One frame more is one step of all voices first. -/
theorem later_succ (n : Nat) (voices : List Voice) :
    later (n + 1) voices = later n (advance voices) := rfl

/-- **How many output frames a buffer has**; no channels count as one. -/
def frameCount (buffer : List Float32) (channels : Nat) : Nat :=
  buffer.length ⌈/⌉ max channels 1

/-- What filling adds to slot `j`: to the first `left` slots the value at hand, then to every frame
of `channels + 1` slots the level of the voices by then. -/
def addedAt (channels left : Nat) (value : Float32) (voices : List Voice) (j : Nat) : Float32 :=
  if j < left then value else level (later ((j - left) / (channels + 1)) voices)

/-- The slots behind the first get what they would get without it. -/
theorem addedAt_succ (channels left : Nat) (value : Float32) (voices : List Voice) (j : Nat) :
    addedAt channels (left + 1) value voices (j + 1) = addedAt channels left value voices j := by
  rw [addedAt, addedAt, Nat.add_sub_add_right]
  simp only [Nat.add_lt_add_iff_right]

/-- The slots after the first one of a frame: its other channels, then the frames after it. -/
theorem addedAt_zero_succ (channels : Nat) (value : Float32) (voices : List Voice) (j : Nat) :
    addedAt channels 0 value voices (j + 1) =
      addedAt channels channels (level voices) (advance voices) j := by
  rw [addedAt, addedAt, if_neg (Nat.not_lt_zero _), Nat.sub_zero]
  by_cases hj : j < channels
  · have hdiv : (j + 1) / (channels + 1) = 0 := Nat.div_eq_of_lt (by omega)
    rw [if_pos hj, hdiv, later_zero]
  · have hsplit : j + 1 = j - channels + (channels + 1) := by omega
    have hdiv : (j + 1) / (channels + 1) = (j - channels) / (channels + 1) + 1 := by
      rw [hsplit, Nat.add_div_right _ (Nat.succ_pos channels)]
    rw [if_neg hj, hdiv, later_succ]

/-- **Filling, slot by slot, and the voices after it.** -/
theorem fill_eq (channels left : Nat) (value : Float32) (voices : List Voice)
    (slots : List Float32) :
    fill channels left value voices slots =
      (slots.mapIdx fun j slot => slot + addedAt channels left value voices j,
        later ((slots.length - left + channels) / (channels + 1)) voices) := by
  induction slots generalizing left value voices with
  | nil =>
    have hzero : (0 - left + channels) / (channels + 1) = 0 := Nat.div_eq_of_lt (by omega)
    rw [fill, List.length_nil, hzero, later_zero, List.mapIdx_nil]
  | cons slot slots ih =>
    cases left with
    | succ left =>
      have hfirst : addedAt channels (left + 1) value voices 0 = value := if_pos (Nat.succ_pos _)
      rw [fill, ih, List.mapIdx_cons, hfirst, List.length_cons, Nat.add_sub_add_right]
      simp only [addedAt_succ]
    | zero =>
      have hfirst : addedAt channels 0 value voices 0 = level voices := by
        rw [addedAt, if_neg (Nat.lt_irrefl 0), Nat.zero_sub, Nat.zero_div, later_zero]
      -- a new frame begins with this slot, so one frame more has gone by at the end
      have hframes : (slots.length + 1 - 0 + channels) / (channels + 1) =
          (slots.length - channels + channels) / (channels + 1) + 1 := by
        have hshift : slots.length + 1 - 0 + channels = slots.length + (channels + 1) := by omega
        rw [hshift, Nat.add_div_right _ (Nat.succ_pos channels)]
        by_cases hle : channels ≤ slots.length
        · rw [Nat.sub_add_cancel hle]
        · rw [Nat.div_eq_of_lt (by omega), Nat.div_eq_of_lt (by omega)]
      rw [fill, ih, List.mapIdx_cons, hfirst, List.length_cons, hframes, later_succ]
      simp only [addedAt_zero_succ]

/-- The slots of a frame behind its first, and this one. -/
theorem channels_sub_add (channels : Nat) : channels - 1 + 1 = max channels 1 := by
  omega

/-- **Every slot of an output frame gets the level of that frame**, whatever the number of channels
and wherever the buffer ends. -/
theorem render_fst (buffer : List Float32) (channels : Nat) (mixer : Mixer) :
    (mixer.render buffer channels).1 =
      buffer.mapIdx fun j slot => slot + level (later (j / max channels 1) mixer.voices) := by
  rw [render, fill_eq]
  simp only [addedAt, Nat.not_lt_zero, if_false, Nat.sub_zero, channels_sub_add]

/-- **A buffer takes the voices as many frames on as it has**, and those that are over are dropped
then. -/
theorem voices_render (buffer : List Float32) (channels : Nat) (mixer : Mixer) :
    (mixer.render buffer channels).2.voices =
      (later (frameCount buffer channels) mixer.voices).filter fun voice => !voice.isFinished := by
  have hcount : (buffer.length - 0 + (channels - 1)) / (channels - 1 + 1) =
      frameCount buffer channels := by
    rw [frameCount, Nat.ceilDiv_eq_add_pred_div, channels_sub_add]
    congr 1
    omega
  rw [render, fill_eq, hcount]

end DrumMachine.Mixer
