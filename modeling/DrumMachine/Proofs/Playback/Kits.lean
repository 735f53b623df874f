import DrumMachine.Kit.Basic
import DrumMachine.Proofs.Playback.Reports

/-! # Playback with a kit

A kit is put on a stage beside whatever decides about the checks (`Stage.withKit`). Then it has no
say in the report of a playback (`Playback.play_withKit`) nor in its strikes
(`Playback.follow_recorded_withKit`), and its outlet has come about by these strikes
(`Playback.outlet_follow_recorded_withKit`).

What every strike did to the world can be noted as well (`Playback.impacts`). It happened between
two checks of the round (`Playback.impacts_eq`). -/

namespace DrumMachine

/-! ## Strikes of a kit -/

/-- **A stage with a kit on it**: what is struck on the stage is struck by the kit too, on an outlet
that has no say in the checks. -/
def Stage.withKit {σ : Type} (stage : Stage σ) (kit : Kit) : Stage (σ × Outlet) where
  check world := ((stage.check world.1).1, (stage.check world.1).2, world.2)
  strike step last world := (stage.strike step last world.1, kit.strike step last world.2)

namespace Playback

variable {σ : Type} (stage : Stage σ) (kit : Kit) (tab : Tablature) (repeats : Bool) (limit : Nat)
  (world : σ) (outlet : Outlet)

/-- **The kit has no say in the report** of a playback. -/
theorem play_withKit :
    (play (stage.withKit kit) tab repeats limit (world, outlet)).map (·.1) =
      (play stage tab repeats limit world).map (·.1) := by
  have hseen : (stage.withKit kit).Seen Prod.fst stage := ⟨fun _ => rfl, fun _ _ _ => rfl⟩
  rw [play_view hseen tab repeats limit (world, outlet), Option.map_map]
  rfl

/-- **The kit has no say in the strikes** of a playback, however far it is followed. -/
theorem follow_recorded_withKit :
    (follow (stage.withKit kit).recorded tab repeats limit ((world, outlet), [])).map (·.2) =
      (follow stage.recorded tab repeats limit (world, [])).map (·.2) := by
  have hseen : (stage.withKit kit).recorded.Seen (fun world => (world.1.1, world.2))
      stage.recorded := ⟨fun _ => rfl, fun _ _ _ => rfl⟩
  rw [follow_view hseen tab repeats limit ((world, outlet), []), Standing.map_map]

/-- **The kit has made the strikes** of a playback, in order. -/
theorem outlet_follow_recorded_withKit :
    (follow (stage.withKit kit).recorded tab repeats limit ((world, outlet), [])).world.1.2 =
      (follow (stage.withKit kit).recorded tab repeats limit ((world, outlet), [])).world.2.foldl
        (fun outlet strike => kit.strike strike.1 strike.2 outlet) outlet := by
  -- at every moment the outlet is what the strikes written down so far have made of it
  have hkeeps : (stage.withKit kit).recorded.Keeps tab.steps fun world =>
      world.1.2 = world.2.foldl (fun outlet strike => kit.strike strike.1 strike.2 outlet)
        outlet := by
    refine ⟨fun _ hworld => hworld, fun step _ last world hworld => ?_⟩
    show kit.strike step last world.1.2 = (world.2 ++ [(step, last)]).foldl _ outlet
    rw [List.foldl_append, ← hworld, List.foldl_cons, List.foldl_nil]
  exact follow_keeps _ tab ((world, outlet), []) hkeeps rfl repeats limit

end Playback

/-! ## Impacts -/

/-- **What a strike did**: the worlds before and after it. -/
structure Impact (σ : Type) where
  step : Step
  /-- Whether it was the last step of its pass. -/
  last : Bool
  before : σ
  after : σ

/-- A stage that also notes what every strike did. -/
def Stage.observed {σ : Type} (stage : Stage σ) : Stage (σ × List (Impact σ)) :=
  stage.noting fun step last world => ⟨step, last, world, stage.strike step last world⟩

namespace Playback

section Impacts

variable {σ : Type} (stage : Stage σ) (tab : Tablature) (repeats : Bool) (limit : Nat) (world : σ)

/-- **What the strikes of a playback did**, as far as it is followed. -/
def impacts : List (Impact σ) := (follow stage.observed tab repeats limit (world, [])).world.2

/-- Noting what strikes do does not change a playback. -/
theorem follow_observed :
    (follow stage.observed tab repeats limit (world, [])).map (·.1) =
      follow stage tab repeats limit world :=
  (follow_view (stage.seen_noting _) tab repeats limit (world, [])).symm

/-- **The impacts of a playback** lie between the checks of the round. -/
theorem impacts_eq :
    impacts stage tab repeats limit world =
      (List.range (follow stage tab repeats limit world).report.stepsPlayed).map fun j =>
        ⟨(tab.strikeAt j).1, (tab.strikeAt j).2, leftAt stage tab world j,
          worldAt stage tab world (j + 1)⟩ :=
  notes_follow_noting stage tab world _ repeats limit

/-- The impacts of a playback are those of its strikes, in order. -/
theorem map_strike_impacts :
    (impacts stage tab repeats limit world).map (fun impact => (impact.step, impact.last)) =
      tab.strikes (follow stage tab repeats limit world).report.stepsPlayed := by
  rw [impacts_eq, List.map_map]
  rfl

end Impacts

end Playback

end DrumMachine
