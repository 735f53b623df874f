import DrumMachine.Kit.Printing

/-! # The recording kit

A kit that takes notes of what is struck: every step as its names joined by a plus, or as a low
line if it has none, with a comma after it or, after the last step of a pass, a line end. It knows
the drums it was given, or every drum. -/

namespace DrumMachine.Recording

/-- Whether a drum is among the known ones; where no names are given every drum is. -/
def knows (names : Option (List String)) (name : String) : Bool :=
  names.all (·.contains name)

/-- **How a step is noted.** -/
def stepText (step : Step) : String :=
  if step.isEmpty then "_" else "+".intercalate step

/-- **Notes a step.** -/
def noteStep (step : Step) (last : Bool) (sink : Sink) : Option Fault × Sink :=
  sink.writeAll (Text.Utf8.encode (stepText step ++ if last then "\n" else ","))

end DrumMachine.Recording
