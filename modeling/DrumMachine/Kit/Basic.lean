import DrumMachine.Kit.Printing
import DrumMachine.Kit.Recording
import DrumMachine.Kit.Sampled
import DrumMachine.Playback
import DrumMachine.Tablature.Reading
import DrumMachine.Text.Listing

/-! # Kits

A kit is one way to make the steps of a tablature heard or seen. It says which drums it knows, how
a step is shown, what striking a step does to the outlet, and what is done after a pass that was
broken off. -/

namespace DrumMachine

/-- **A kit.** -/
inductive Kit where
  /-- Prints steps to the outlet's sink. -/
  | printing
  /-- Notes steps in the outlet's sink; without names it knows every drum. -/
  | recording (names : Option (List String))
  /-- Plays the samples of a bank through the outlet's mixer. -/
  | sampled (bank : Bank)

/-- **What a kit acts on**: a sink, a mixer and the log. -/
structure Outlet where
  sink : Sink
  mixer : Mixer := {}
  log : List LogEntry := []

namespace Outlet

/-- Takes over what became of the sink; a fault is logged as a warning, after `context`. -/
def written (context : String) (result : Option Fault × Sink) (outlet : Outlet) : Outlet :=
  match result with
  | (none, sink) => { outlet with sink := sink }
  | (some fault, sink) =>
    { outlet with sink := sink, log := outlet.log ++ [⟨.warning, context ++ fault.message, []⟩] }

end Outlet

namespace Kit

/-- Whether a kit knows a drum. -/
def knows : Kit → String → Bool
  | printing, name => Printing.drums.contains name
  | recording names, name => Recording.knows names name
  | sampled bank, name => Sampled.knows bank name

/-- How a kit shows a step. -/
def listing : Kit → Step → Text.Listing
  | printing, step => .leaf (Printing.stepText step)
  | recording _, step => .leaf (Recording.stepText step)
  | sampled bank, step =>
    .list ((Sampled.audible bank step).map fun name => .leaf (Text.Quoted.encode name))

/-- How a kit shows a tablature: as the list of its steps. -/
def tabListing (kit : Kit) (tab : Tablature) : Text.Listing := .list (tab.steps.map kit.listing)

/-- **Strikes a step**; the flag says that it is the last of a pass. -/
def strike : Kit → Step → Bool → Outlet → Outlet
  | printing, step, last, outlet =>
    outlet.written "failed to print step: " (Printing.printStep step last outlet.sink)
  | recording _, step, last, outlet =>
    { outlet with sink := (Recording.noteStep step last outlet.sink).2 }
  | sampled bank, step, _, outlet =>
    { outlet with mixer := Sampled.strike bank step outlet.mixer }

/-- **What is done after a pass that was broken off**: the printing kit ends its line. -/
def passInterrupted : Kit → Outlet → Outlet
  | printing, outlet =>
    outlet.written "failed to end line: " (Printing.endLine outlet.sink)
  | recording _, outlet | sampled _, outlet => outlet

/-- **Reads a tablature for a kit.** -/
def read (kit : Kit) (source : Source) : Except Tablature.ReadError Tablature :=
  Tablature.read kit.knows source

end Kit

end DrumMachine
