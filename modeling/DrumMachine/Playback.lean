import DrumMachine.Log
import DrumMachine.Tablature.Basic
import DrumMachine.Tempo

/-! # Playback

A player strikes the steps of a tablature in order, pass after pass. Before each step it asks
whether it was cancelled. Without repetition it stops after one pass, otherwise when it is
cancelled. What is asked and what is struck is given by a `Stage`, whose state stands for the
world: a strike may cancel, and so may anything that happens between two questions. -/

namespace DrumMachine

/-- **What a player acts on**, over a state `σ`. -/
structure Stage (σ : Type) where
  /-- Asks whether playback is cancelled. -/
  check : σ → Bool × σ
  /-- Strikes a step; the flag says that it is the last of the tablature. -/
  strike : Step → Bool → σ → σ

/-- **What playback got through.** -/
structure Report where
  /-- Steps played, over all passes. -/
  stepsPlayed : Nat := 0
  /-- Complete passes. -/
  passes : Nat := 0
  /-- Whether playback ended by being cancelled. -/
  cancelled : Bool := false
  /-- Whether it was cancelled after the first step of a pass. -/
  midPass : Bool := false
  deriving DecidableEq, Repr

/-- How far one pass came. -/
structure PassOutcome where
  /-- Steps played in this pass. -/
  struck : Nat
  cancelled : Bool
  deriving DecidableEq, Repr

namespace Playback

/-- **Plays what is left of a pass.** -/
def pass {σ : Type} (stage : Stage σ) : List Step → σ → PassOutcome × σ
  | [], world => (⟨0, false⟩, world)
  | step :: rest, world =>
    match stage.check world with
    | (true, world) => (⟨0, true⟩, world)
    | (false, world) =>
      match pass stage rest (stage.strike step rest.isEmpty world) with
      | (outcome, world) => (⟨outcome.struck + 1, outcome.cancelled⟩, world)

/-- The report after a pass that was cancelled. -/
def afterCancel (report : Report) (outcome : PassOutcome) : Report :=
  { report with
    stepsPlayed := report.stepsPlayed + outcome.struck
    cancelled := true
    midPass := 0 < outcome.struck }

/-- The report after a complete pass. -/
def afterPass (report : Report) (outcome : PassOutcome) : Report :=
  { report with
    stepsPlayed := report.stepsPlayed + outcome.struck
    passes := report.passes + 1 }

/-- **Where a playback stands** after some passes. -/
inductive Standing (σ : Type) where
  /-- It is over. -/
  | ended (report : Report) (world : σ)
  /-- Every pass so far was played to its end, and another one is to begin. -/
  | underway (report : Report) (world : σ)

/-- What a playback that is over got through, and the world after it. -/
def Standing.result? {σ : Type} : Standing σ → Option (Report × σ)
  | ended report world => some (report, world)
  | underway _ _ => none

/-- **Plays passes**, at most `limit` of them, on top of what `report` counts. -/
def passes {σ : Type} (stage : Stage σ) (steps : List Step) (repeats : Bool) :
    (limit : Nat) → Report → σ → Standing σ
  | 0, report, world => .underway report world
  | limit + 1, report, world =>
    match pass stage steps world with
    | (outcome, world) =>
      if outcome.cancelled then .ended (afterCancel report outcome) world
      else if repeats then passes stage steps repeats limit (afterPass report outcome) world
      else .ended (afterPass report outcome) world

/-- **Follows the playback of a tablature**, once or repeating, for `limit` passes. -/
def follow {σ : Type} (stage : Stage σ) (tab : Tablature) (repeats : Bool) (limit : Nat)
    (world : σ) : Standing σ :=
  passes stage tab.steps repeats limit {} world

/-- **Plays a tablature**, once or repeating. A playback that does not end within `limit` passes
has no answer. -/
def play {σ : Type} (stage : Stage σ) (tab : Tablature) (repeats : Bool) (limit : Nat)
    (world : σ) : Option (Report × σ) :=
  (follow stage tab repeats limit world).result?

/-- Where no step is left, nothing is struck. -/
@[simp] theorem pass_nil {σ : Type} (stage : Stage σ) (world : σ) :
    pass stage [] world = (⟨0, false⟩, world) := rfl

/-- One pass is enough for a player that does not repeat. -/
theorem play_once_isSome {σ : Type} (stage : Stage σ) (tab : Tablature) (limit : Nat)
    (world : σ) : (play stage tab false (limit + 1) world).isSome := by
  simp only [play, follow, passes]
  split <;> simp [Standing.result?]

end Playback

namespace Report

/-- What is logged when the `n`th pass is complete. -/
def passEntry (n : Nat) : LogEntry := ⟨.debug, "completed pass", [("pass", toString n)]⟩

/-- **What a player logs**: every completed pass, and the cancellation that ended playback. -/
def log (report : Report) : List LogEntry :=
  (List.range report.passes).map (fun n => passEntry (n + 1)) ++
  if report.cancelled then
    [⟨.debug, "playback cancelled", [("steps", toString report.stepsPlayed)]⟩]
  else []

end Report

end DrumMachine
