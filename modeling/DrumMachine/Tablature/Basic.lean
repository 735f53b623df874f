/-! # Tablatures

A step is what is hit at one moment: drum names, in the order in which they were added. A tablature
is a non-empty sequence of steps, together with the drums it was written for. -/

namespace DrumMachine

/-- **One moment of a tablature**: the drums to hit, in the order they were added. -/
abbrev Step := List String

/-- **A tablature.** It always has a step. -/
structure Tablature where
  /-- The drums, in the order of their lines. -/
  drums : List String
  /-- The steps, in the order they are played. -/
  steps : List Step
  steps_ne_nil : steps ≠ []
  deriving DecidableEq

namespace Tablature

/-- How many steps a tablature has. -/
def length (tab : Tablature) : Nat := tab.steps.length

/-- A tablature without steps; there is none. -/
def isEmpty (tab : Tablature) : Bool := tab.steps.isEmpty

/-- A tablature has steps. -/
theorem length_pos (tab : Tablature) : 0 < tab.length :=
  List.length_pos_iff.2 tab.steps_ne_nil

/-- **The strike number `j` of a playback that goes round and round**: the step, and whether it is
the last one of its pass. -/
def strikeAt (tab : Tablature) (j : Nat) : Step × Bool :=
  (tab.steps.get ⟨j % tab.length, Nat.mod_lt j tab.length_pos⟩, j % tab.length == tab.length - 1)

/-- No tablature is empty. -/
@[simp] theorem isEmpty_eq_false (tab : Tablature) : tab.isEmpty = false := by
  simp [isEmpty, tab.steps_ne_nil]

end Tablature

end DrumMachine
