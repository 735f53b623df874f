import DrumMachine.Proofs.Mixer.Blocks
import DrumMachine.Proofs.Playback.Kits
import DrumMachine.Proofs.Tablature.Delivery

/-! # What the strikes of a sampled kit do to the mixer

While a sampled kit plays, buffers are rendered from its mixer at any time between strikes
(`Stage.withMixer`). Every strike of such a playback is noted together with the worlds before and
after it (`Playback.impacts`), and is then compared with the text that the tablature was read from:
it starts, as one block, the samples of the drums whose lines hit the column (`PlaysLines`).

Two things make this so. The kit knows a drum exactly if its bank has the sample, so that no drum of
a tablature it has read stays silent (`map_get?_audible`, `audible_eq_self`). And the mixer is only
ever changed by triggers and buffers, so that it never holds more voices than it may
(`keeps_withMixer`). -/

namespace DrumMachine

/-! ## Columns -/

namespace Tablature

/-- **The lines of a text that hit column `i`**, in their order. -/
def linesHitting (bytes : List UInt8) (i : Nat) : List (List UInt8) :=
  (textLines bytes).filter fun line => hits (patternOf line) i

/-- **The steps of a tablature that was read** have the names of the lines that hit their
columns. -/
theorem getElem_steps_of_read {knows : String → Bool} {source : Source} {tab : Tablature}
    (h : read knows source = .ok tab) (i : Nat) (hi : i < tab.steps.length) :
    tab.steps[i] = (linesHitting source.delivered i).map nameOf := by
  cases hfault : source.fault? with
  | some fault =>
    -- a source that fails gives no tablature
    exact absurd h (read_ne_ok_of_fault hfault tab)
  | none =>
    rw [read_eq_ofBytes hfault, ofBytes_eq_ok_iff] at h
    obtain ⟨lines, hdescribes, -, -, -, hsteps⟩ := h
    rw [linesHitting, ← column_of_describes hdescribes]
    simp only [hsteps]
    exact getElem_stepsOf lines i (hsteps ▸ hi)

end Tablature

/-! ## Samples -/

namespace Sampled

/-- **The drums that a step shows are those whose samples it starts**, one for one. -/
theorem map_get?_audible (bank : Bank) (step : Step) :
    (audible bank step).map bank.get? = (step.filterMap bank.get?).map some := by
  induction step with
  | nil => rfl
  | cons name rest ih =>
    rw [audible] at ih ⊢
    cases hname : bank.get? name with
    | none =>
      -- a drum without a sample is missing from both lists
      simpa [knows, hname] using ih
    | some sample => simpa [knows, hname] using ih

/-- A step of known drums shows all of them. -/
theorem audible_eq_self {bank : Bank} {step : Step} (h : ∀ name ∈ step, knows bank name = true) :
    audible bank step = step :=
  List.filter_eq_self.mpr h

end Sampled

/-! ## Strikes -/

/-- **A stage with a sampled kit on it.** Before every check its mixer renders the buffers that the
world asks for, however many; a strike has the mixer to itself. -/
def Stage.withMixer {σ : Type} (stage : Stage σ) (bank : Bank)
    (buffers : σ → List (List Float32 × Nat)) : Stage (σ × Outlet) where
  check world :=
    ((stage.check world.1).1, (stage.check world.1).2,
      { world.2 with mixer := world.2.mixer.renderAll (buffers world.1) })
  strike := (stage.withKit (.sampled bank)).strike

namespace Sampled

open Tablature

variable {σ : Type} {bank : Bank}

/-- **The mixer is only ever changed by triggers and buffers.** -/
theorem keeps_withMixer (stage : Stage σ) (bank : Bank)
    (buffers : σ → List (List Float32 × Nat)) (steps : List Step) :
    (stage.withMixer bank buffers).Keeps steps fun world => world.2.mixer.Reached where
  check world h := h.renderAll (buffers world.1)
  strike step _ _ _ h := h.foldl_trigger (voices bank step)

/-- **A strike plays lines of a text**: its step names their drums and is shown as the list of these
names, and it starts their samples as one block, in the order of the lines. -/
structure PlaysLines (bank : Bank) (lines : List (List UInt8)) (impact : Impact (σ × Outlet)) :
    Prop where
  step : impact.step = lines.map nameOf
  listing : (Kit.sampled bank).listing impact.step =
    .list (lines.map fun line => .leaf (Text.Quoted.encode (nameOf line)))
  starts : ∃ samples : List Sample,
    lines.map (fun line => bank.get? (nameOf line)) = samples.map some ∧
      Mixer.Starts (samples.map (·.frames)) impact.before.2.mixer impact.after.2.mixer

/-- A strike of known drums plays the lines that name them. -/
theorem playsLines_of_knows {lines : List (List UInt8)} {impact : Impact (σ × Outlet)}
    (hstep : impact.step = lines.map nameOf)
    (hknows : ∀ name ∈ impact.step, knows bank name = true)
    (hreached : impact.before.2.mixer.Reached)
    (hafter : impact.after.2.mixer = strike bank impact.step impact.before.2.mixer) :
    PlaysLines bank lines impact where
  step := hstep
  listing := by
    rw [Kit.listing, audible_eq_self hknows, hstep, List.map_map]
    rfl
  starts := by
    refine ⟨impact.step.filterMap bank.get?, ?_, ?_⟩
    · rw [← map_get?_audible, audible_eq_self hknows, hstep, List.map_map]
      rfl
    · rw [hafter]
      exact hreached.starts_foldl_trigger (voices bank impact.step)

/-- **Every strike of a playback starts the samples of the lines that hit its column**, all of them
and all at once, whatever buffers are rendered in between. Strike number `j` is that of column
`j mod n`. -/
theorem impacts_play_lines {source : Source} {tab : Tablature}
    (hread : (Kit.sampled bank).read source = .ok tab) (stage : Stage σ)
    (buffers : σ → List (List Float32 × Nat)) (repeats : Bool) (limit : Nat) (world : σ)
    {outlet : Outlet} (hreached : outlet.mixer.Reached) :
    (Playback.follow (stage.withMixer bank buffers).observed tab repeats limit
        ((world, outlet), [])).map (·.1) =
      Playback.follow (stage.withMixer bank buffers) tab repeats limit (world, outlet) ∧
    (Playback.impacts (stage.withMixer bank buffers) tab repeats limit (world, outlet)).map
        (fun impact => (impact.step, impact.last)) =
      tab.strikes (Playback.follow (stage.withMixer bank buffers) tab repeats limit
        (world, outlet)).report.stepsPlayed ∧
    ∀ (j : Nat) (hj : j < (Playback.impacts (stage.withMixer bank buffers) tab repeats limit
        (world, outlet)).length),
      PlaysLines bank (linesHitting source.delivered (j % tab.length))
        (Playback.impacts (stage.withMixer bank buffers) tab repeats limit (world, outlet))[j] := by
  refine ⟨Playback.follow_observed _ _ _ _ _, Playback.map_strike_impacts _ _ _ _ _, ?_⟩
  intro j hj
  have hmod : j % tab.length < tab.steps.length := Nat.mod_lt j tab.length_pos
  -- the kit has read the tablature, so it knows the drums of every step
  have hknows : ∀ name ∈ (tab.strikeAt j).1, knows bank name = true := fun _ =>
    knows_of_read hread (List.getElem_mem hmod)
  -- the strike finds the world as check number `j` has left it
  have hleft := (Playback.worldAt_keeps _ tab (world, outlet)
    (keeps_withMixer stage bank buffers tab.steps) hreached j).2
  simp only [Playback.impacts_eq, List.getElem_map, List.getElem_range]
  exact playsLines_of_knows (getElem_steps_of_read hread _ hmod) hknows hleft rfl

/-- A bank of a bass drum and a snare drum. -/
def twoDrums : Bank where
  samples := ⟨[("BD", ⟨[0.5, 0.25], 22050⟩), ("SD", ⟨[0.125], 22050⟩)], by decide⟩
  rate := 22050

/-- Both drums at once, then a pause. -/
def bothAndPause : Tablature := ⟨["BD", "SD"], [["BD", "SD"], []], by decide⟩

/-- What three strikes of the two drums do, where the mixer renders two slots before each check. -/
def threeImpacts : List (Impact (Nat × Outlet)) :=
  Playback.impacts ((Stage.stoppingAfter 3).withMixer twoDrums fun count => [([0, 0], count)])
    bothAndPause true 2 (0, { sink := .new .willing })

/-- The third of three strikes plays both lines again, after a silent step. -/
theorem impacts_play_lines_two_drums :
    (Kit.sampled twoDrums).read (.ofBytes (Text.Utf8.encode "BD|o.\nSD|o.\n")) =
      .ok bothAndPause ∧
    threeImpacts.map (fun impact => (impact.step, impact.last)) =
      [(["BD", "SD"], false), ([], true), (["BD", "SD"], false)] ∧
    ∃ hj : 2 < threeImpacts.length,
      PlaysLines twoDrums [Text.Utf8.encode "BD|o.", Text.Utf8.encode "SD|o."]
        threeImpacts[2] := by
  have hread : (Kit.sampled twoDrums).read (.ofBytes (Text.Utf8.encode "BD|o.\nSD|o.\n")) =
      .ok bothAndPause := by decide
  have hidle : ({ sink := .new .willing } : Outlet).mixer.Reached := ⟨[], rfl⟩
  obtain ⟨-, hstrikes, hlines⟩ := impacts_play_lines hread (Stage.stoppingAfter 3)
    (fun count => [([0, 0], count)]) true 2 0 hidle
  have hthree : threeImpacts.map (fun impact => (impact.step, impact.last)) =
      [(["BD", "SD"], false), ([], true), (["BD", "SD"], false)] := hstrikes.trans (by decide)
  have hlength : threeImpacts.length = 3 := by
    rw [← List.length_map, hthree]
    rfl
  exact ⟨hread, hthree, by rw [hlength]; decide, hlines 2 _⟩

end Sampled

end DrumMachine
