/-! # The voice mixer

Every triggered drum becomes a voice that plays its frames through to the end. Voices overlap
freely: each output frame is the sum of the next frame of every voice, clamped to [-1, 1], and is
added to every channel alike. There are at most 64 voices; a further one displaces the oldest. -/

namespace DrumMachine

/-- **A voice**: a sound and how much of it was played. -/
structure Voice where
  frames : Array Float32
  /-- The number of the next frame. -/
  position : Nat := 0

namespace Voice

/-- Whether a voice has played all its frames. -/
def isFinished (voice : Voice) : Bool := voice.frames.size ≤ voice.position

/-- The next frame of a voice, if there is one. -/
def next? (voice : Voice) : Option Float32 := voice.frames[voice.position]?

/-- A voice one frame later; a voice that is over stays where it is. -/
def advance (voice : Voice) : Voice :=
  match voice.next? with
  | some _ => { voice with position := voice.position + 1 }
  | none => voice

end Voice

/-- The most voices at a time. -/
def maxVoices : Nat := 64

/-- Keeps a value within [-1, 1]; what is no number stays as it is. -/
def clampFrame (value : Float32) : Float32 :=
  if value < -1 then -1 else if 1 < value then 1 else value

/-- **A mixer**: its voices, oldest first. -/
structure Mixer where
  voices : List Voice := []

namespace Mixer

/-- Adds a voice, which displaces the oldest one if there are as many as there may be. -/
def trigger (frames : List Float32) (mixer : Mixer) : Mixer :=
  ⟨(if maxVoices ≤ mixer.voices.length then mixer.voices.tail else mixer.voices) ++
    [{ frames := frames.toArray }]⟩

/-- How many voices there are. -/
def activeVoices (mixer : Mixer) : Nat := mixer.voices.length

/-- Adds the next frame of a voice to a sum. -/
def addNext (sum : Float32) (voice : Voice) : Float32 :=
  match voice.next? with
  | some frame => sum + frame
  | none => sum

/-- **The next output frame** of the voices: their next frames summed, oldest first, and clamped. -/
def level (voices : List Voice) : Float32 := clampFrame (voices.foldl addNext 0)

/-- The voices one frame later. -/
def advance (voices : List Voice) : List Voice := voices.map Voice.advance

/-- Adds output to the slots of a buffer: to the next `left` slots the value `value`, then to every
`channels + 1` slots one further output frame. -/
def fill (channels : Nat) : (left : Nat) → (value : Float32) → List Voice → List Float32 →
    List Float32 × List Voice
  | _, _, voices, [] => ([], voices)
  | left + 1, value, voices, slot :: slots =>
    match fill channels left value voices slots with
    | (filled, voices') => ((slot + value) :: filled, voices')
  | 0, _, voices, slot :: slots =>
    -- the first slot of a frame: the voices move on, and the other channels repeat the value
    match fill channels channels (level voices) (advance voices) slots with
    | (filled, voices') => ((slot + level voices) :: filled, voices')

/-- **Adds the next output frames to an interleaved buffer.** No channels count as one, and a last
frame that is incomplete is filled as far as it goes. Voices that are over are dropped at the
end. -/
def render (buffer : List Float32) (channels : Nat) (mixer : Mixer) : List Float32 × Mixer :=
  match fill (channels - 1) 0 0 mixer.voices buffer with
  | (filled, voices) => (filled, ⟨voices.filter fun voice => !voice.isFinished⟩)

/-- A trigger never makes more voices than there may be. -/
theorem activeVoices_trigger_le {mixer : Mixer} (h : mixer.activeVoices ≤ maxVoices)
    (frames : List Float32) : (mixer.trigger frames).activeVoices ≤ maxVoices := by
  have : 0 < maxVoices := by decide
  unfold trigger activeVoices at *
  split <;> simp <;> omega

end Mixer

end DrumMachine
