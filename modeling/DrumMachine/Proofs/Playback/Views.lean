import DrumMachine.Playback

/-! # Playback as it is seen

Often only a part of the world matters, or something is written down beside it. A view leads from
the world of a stage to that of another one, and goes along with checks and strikes
(`Stage.Seen`). Playback then goes along with it as well: the same report, and the worlds after it
are seen as one another (`Playback.play_view`).

What all checks and strikes leave true of the world (`Stage.Keeps`) is left true by a playback. -/

namespace DrumMachine

variable {σ τ : Type} {stage : Stage σ} {seen : Stage τ} {view : σ → τ}

/-- **One stage is seen as another**, whose checks answer alike. -/
structure Stage.Seen (stage : Stage σ) (view : σ → τ) (seen : Stage τ) : Prop where
  check : ∀ world, seen.check (view world) = ((stage.check world).1, view (stage.check world).2)
  strike : ∀ step last world,
    seen.strike step last (view world) = view (stage.strike step last world)

/-- **What checks and strikes leave true**, where the strikes are of the given steps. -/
structure Stage.Keeps (stage : Stage σ) (steps : List Step) (holds : σ → Prop) : Prop where
  check : ∀ world, holds world → holds (stage.check world).2
  strike : ∀ step ∈ steps, ∀ last world, holds world → holds (stage.strike step last world)

namespace Playback

/-- How a playback stands, seen through a view. -/
def Standing.map (view : σ → τ) : Standing σ → Standing τ
  | ended report world => .ended report (view world)
  | underway report world => .underway report (view world)

/-- The world of a playback, whether it is over or not. -/
def Standing.world : Standing σ → σ
  | ended _ world | underway _ world => world

/-- What a playback has got through, whether it is over or not. -/
def Standing.report : Standing σ → Report
  | ended report _ | underway report _ => report

/-- Through a view a playback has the same report and the world seen. -/
theorem Standing.result?_map (view : σ → τ) (standing : Standing σ) :
    (standing.map view).result? = standing.result?.map fun result => (result.1, view result.2) := by
  cases standing <;> rfl

/-- A view of a view is one view. -/
theorem Standing.map_map {υ : Type} (view : σ → τ) (view' : τ → υ) (standing : Standing σ) :
    (standing.map view).map view' = standing.map fun world => view' (view world) := by
  cases standing <;> rfl

/-- The report is the same through every view. -/
theorem Standing.report_map (view : σ → τ) (standing : Standing σ) :
    (standing.map view).report = standing.report := by
  cases standing <;> rfl

/-- A playback with a result has ended with it. -/
theorem Standing.eq_ended_of_result? {standing : Standing σ} {report : Report} {world : σ}
    (h : standing.result? = some (report, world)) : standing = .ended report world := by
  cases standing with
  | ended report' world' =>
    obtain ⟨rfl, rfl⟩ := Prod.mk.inj (Option.some.inj h)
    rfl
  | underway report' world' => cases h

/-! ## Views -/

/-- A pass seen through a view is a pass on the stage seen. -/
theorem pass_view (h : stage.Seen view seen) (steps : List Step) (world : σ) :
    pass seen steps (view world) =
      ((pass stage steps world).1, view (pass stage steps world).2) := by
  induction steps generalizing world with
  | nil => rfl
  | cons step rest ih =>
    rw [pass, pass, h.check]
    obtain ⟨cancelled, world'⟩ := stage.check world
    cases cancelled with
    | true => rfl
    | false =>
      dsimp only
      rw [h.strike, ih]

/-- Passes seen through a view are passes on the stage seen. -/
theorem passes_view (h : stage.Seen view seen) (steps : List Step) (repeats : Bool) (limit : Nat)
    (report : Report) (world : σ) :
    passes seen steps repeats limit report (view world) =
      (passes stage steps repeats limit report world).map view := by
  induction limit generalizing report world with
  | zero => rfl
  | succ limit ih =>
    rw [passes, passes, pass_view h]
    dsimp only
    split
    · rfl
    · split
      · exact ih _ _
      · rfl

/-- **A playback seen through a view** is one on the stage seen. -/
theorem follow_view (h : stage.Seen view seen) (tab : Tablature) (repeats : Bool) (limit : Nat)
    (world : σ) :
    follow seen tab repeats limit (view world) =
      (follow stage tab repeats limit world).map view :=
  passes_view h tab.steps repeats limit {} world

/-- **Playback goes along with a view.** -/
theorem play_view (h : stage.Seen view seen) (tab : Tablature) (repeats : Bool) (limit : Nat)
    (world : σ) :
    play seen tab repeats limit (view world) =
      (play stage tab repeats limit world).map fun result => (result.1, view result.2) := by
  rw [play, follow_view h, Standing.result?_map, play]

end Playback

end DrumMachine
