import DrumMachine.Stream.Sink
import DrumMachine.Tablature.Basic
import DrumMachine.Text.Utf8

/-! # The printing kit

A step is printed as the names of its drums joined by a plus, or as a rest if it has none, and the
last step of a pass ends the line:

    HH+BD__HH__HH+SD__HH__

Every step is flushed, so that it shows when it is struck. -/

namespace DrumMachine.Printing

/-- **The drums of the printing kit**: cymbal, hi-hat, tambourine, cowbell, high, middle and low
tom, snare drum, bass drum, accent. -/
def drums : List String := ["CY", "HH", "TA", "CW", "HT", "MT", "LT", "SD", "BD", "AC"]

/-- What is printed for a step without drums. -/
def rest : String := "__"

/-- What ends a line. -/
def newline : String := "\n"

/-- Adds the name of a drum to what is printed for a step. -/
def addName (text name : String) : String :=
  if text.isEmpty then name else text ++ "+" ++ name

/-- **What is printed for a step.** -/
def stepText (step : Step) : String :=
  let text := step.foldl addName ""
  if text.isEmpty then rest else text

/-- **Writes texts in order, then flushes.** The first fault ends it. -/
def emit : List String → Sink → Option Fault × Sink
  | [], sink => sink.flush
  | text :: texts, sink =>
    match sink.writeAll (Text.Utf8.encode text) with
    | (some fault, sink) => (some fault, sink)
    | (none, sink) => emit texts sink

/-- **Prints a step**; the last one of a pass ends the line. -/
def printStep (step : Step) (last : Bool) : Sink → Option Fault × Sink :=
  emit (if last then [stepText step, newline] else [stepText step])

/-- **Ends a line** that was not printed to its end. -/
def endLine : Sink → Option Fault × Sink := emit [newline]

end DrumMachine.Printing
