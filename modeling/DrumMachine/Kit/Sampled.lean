import DrumMachine.Audio.Mixer
import DrumMachine.Kit.Bank
import DrumMachine.Tablature.Basic

/-! # The sampled kit

A step starts one voice for each of its drums, all at once, and does not wait for them: they ring
out over the steps that follow. Names that the bank does not hold are no drums and stay silent. -/

namespace DrumMachine.Sampled

/-- Whether the bank holds a drum. -/
def knows (bank : Bank) (name : String) : Bool := (bank.get? name).isSome

/-- The drums of a step that the bank holds. -/
def audible (bank : Bank) (step : Step) : Step := step.filter (knows bank)

/-- **The voices of a step**: the frames of each of its drums, in order. -/
def voices (bank : Bank) (step : Step) : List (List Float32) :=
  (step.filterMap bank.get?).map (·.frames)

/-- **Strikes a step**: starts its voices, in order. -/
def strike (bank : Bank) (step : Step) (mixer : Mixer) : Mixer :=
  (voices bank step).foldl (fun mixer frames => mixer.trigger frames) mixer

end DrumMachine.Sampled
