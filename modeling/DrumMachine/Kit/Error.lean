import DrumMachine.Audio.Buffer
import DrumMachine.Audio.Wave
import DrumMachine.Failure

/-! # Why a kit cannot be built -/

namespace DrumMachine

/-- **Why a kit cannot be built.** -/
inductive KitError where
  /-- There are no drums. -/
  | noDrums
  /-- The sample of a drum cannot be loaded. -/
  | sample (drum : String) (error : SampleError)
  /-- The kit has no device to play through. -/
  | audio (error : AudioError)
  deriving DecidableEq, Repr

namespace KitError

/-- The text of a kit error. -/
def message : KitError → String
  | noDrums => "kit has no drums"
  | sample drum error => "drum " ++ drum ++ ": " ++ error.message
  | audio error => error.message

/-- The causes of a kit error. -/
def causes : KitError → List String
  | noDrums | audio _ => []
  | sample _ error => error.message :: error.causes

/-- A kit error as a failure. -/
def failure (error : KitError) : Failure := ⟨error.message, error.causes⟩

end KitError

end DrumMachine
