import DrumMachine.Proofs.Mixer.Timeline
import Mathlib.Data.List.DropRight

/-! # Voices that start together

When several voices are triggered with nothing rendered in between, the mixer holds the last 64 of
the voices that it held before and the new ones (`voices_foldl_trigger`): a block may evict the
oldest voices, and if it is longer than that even its own first ones. On the timeline all cues of a
block start at the same output frame (`Timeline.starts_run_triggers`). Both together say that the
block starts on the mixer (`Mixer.Starts`). -/

namespace DrumMachine

/-- Only the last `n` of a list count for the last `n` of a longer one. -/
theorem rtake_rtake_append {α : Type} (l m : List α) (n : Nat) :
    (l.rtake n ++ m).rtake n = (l ++ m).rtake n := by
  have hmin : min (n - m.length) n = n - m.length := by omega
  simp only [List.rtake_eq_reverse_take_reverse, List.reverse_append, List.reverse_reverse,
    List.take_append, List.take_take, List.length_reverse, hmin]

/-- All of a list is taken if there is no more. -/
theorem rtake_of_length_le {α : Type} {l : List α} {n : Nat} (h : l.length ≤ n) :
    l.rtake n = l := by
  have hdrop : l.length - n = 0 := by omega
  rw [List.rtake, hdrop, List.drop_zero]

/-- A voice that has all its frames before it. -/
def Voice.fresh (frames : List Float32) : Voice := ⟨frames.toArray, 0⟩

namespace Mixer

/-- **A trigger keeps the last 64** of the voices before it and the new one. -/
theorem voices_trigger (frames : List Float32) {mixer : Mixer} (h : mixer.voices.length ≤ 64) :
    (mixer.trigger frames).voices =
      (mixer.voices ++ [Voice.fresh frames]).rtake 64 := by
  rw [trigger, List.rtake, List.length_append, List.length_singleton, maxVoices]
  -- the oldest voice goes only if there are 64 before the new one
  by_cases hfull : 64 ≤ mixer.voices.length
  · have hdrop : mixer.voices.length + 1 - 64 = 1 := by omega
    rw [if_pos hfull, hdrop, List.drop_append_of_le_length (by omega), List.drop_one]
    rfl
  · have hdrop : mixer.voices.length + 1 - 64 = 0 := by omega
    rw [if_neg hfull, hdrop, List.drop_zero]
    rfl

/-- **A block of triggers keeps the last 64** of the voices before it and the new ones. -/
theorem voices_foldl_trigger (block : List (List Float32)) {mixer : Mixer}
    (h : mixer.voices.length ≤ 64) :
    (block.foldl (fun mixer frames => mixer.trigger frames) mixer).voices =
      (mixer.voices ++ block.map Voice.fresh).rtake 64 := by
  induction block generalizing mixer with
  | nil => rw [List.foldl_nil, List.map_nil, List.append_nil, rtake_of_length_le h]
  | cons frames block ih =>
    have hfirst := voices_trigger frames h
    have hlength : (mixer.trigger frames).voices.length ≤ 64 := activeVoices_trigger_le h frames
    -- what the first trigger cuts off is not among the last 64 after the others either
    rw [List.foldl_cons, ih hlength, hfirst, rtake_rtake_append, List.append_assoc,
      List.singleton_append, List.map_cons]

/-- No run of requests makes more than 64 voices. -/
theorem length_voices_run_le (requests : List Request) : (run requests).voices.length ≤ 64 := by
  obtain ⟨hconsistent, hdescribes⟩ := Timeline.run_invariant requests
  rw [hdescribes, List.length_map]
  exact hconsistent.length_held_le

/-- A run that goes on with a block of triggers. -/
theorem run_append_triggers (requests : List Request) (block : List (List Float32)) :
    run (requests ++ block.map .trigger) =
      block.foldl (fun mixer frames => mixer.trigger frames) (run requests) := by
  rw [run, List.foldl_append, List.foldl_map]
  rfl

/-- **The mixer after buffers were rendered**, each with its number of channels, one after the
other. -/
def renderAll (buffers : List (List Float32 × Nat)) (mixer : Mixer) : Mixer :=
  buffers.foldl (fun mixer buffer => (mixer.render buffer.1 buffer.2).2) mixer

/-- A run that goes on with buffers. -/
theorem renderAll_run (buffers : List (List Float32 × Nat)) (requests : List Request) :
    (run requests).renderAll buffers =
      run (requests ++ buffers.map fun buffer => .render buffer.1 buffer.2) := by
  rw [run, run, List.foldl_append, List.foldl_map]
  rfl

end Mixer

namespace Timeline

/-- When the cues of a timeline start, and with which frames. -/
def starts (timeline : Timeline) : List (Nat × List Float32) :=
  timeline.cues.map fun cue => (cue.start, cue.frames)

/-- An eviction changes neither when a cue started nor its frames. -/
theorem map_evictOldest (cues : List Cue) :
    (Cue.evictOldest cues).map (fun cue => (cue.start, cue.frames)) =
      cues.map fun cue => (cue.start, cue.frames) := by
  induction cues with
  | nil => rfl
  | cons cue rest ih =>
    rw [Cue.evictOldest]
    split
    · rfl
    · rw [List.map_cons, List.map_cons, ih]

/-- A trigger adds a start at this moment. -/
theorem starts_trigger (timeline : Timeline) (frames : List Float32) :
    (timeline.trigger frames).starts = timeline.starts ++ [(timeline.now, frames)] := by
  rw [starts, trigger, List.map_append, List.map_singleton, starts]
  split
  · rw [map_evictOldest]
  · rfl

/-- **All cues of a block start at the same output frame**: after all that were output before. -/
theorem starts_run_triggers (requests : List Mixer.Request) (block : List (List Float32)) :
    (run (requests ++ block.map .trigger)).starts =
      (run requests).starts ++ block.map fun frames => ((run requests).now, frames) := by
  induction block using List.reverseRecOn with
  | nil => rw [List.map_nil, List.append_nil, List.map_nil, List.append_nil]
  | append_singleton block frames ih =>
    -- triggers output nothing, so the output is where it was before the block
    have hnow : (run (requests ++ block.map .trigger)).now = (run requests).now := by
      rw [now_run, now_run, List.map_append, List.sum_append, List.map_map]
      simp [Function.comp_def, Mixer.Request.frameCount]
    rw [List.map_append, List.map_singleton, ← List.append_assoc, run_concat, perform,
      starts_trigger, ih, hnow, List.map_append, List.map_singleton, List.append_assoc]

end Timeline

namespace Mixer

/-- **A mixer that has come about by requests.** -/
def Reached (mixer : Mixer) : Prop := ∃ requests, mixer = run requests

/-- Rendering leads from mixers that can be reached to such mixers. -/
theorem Reached.renderAll {mixer : Mixer} (h : mixer.Reached)
    (buffers : List (List Float32 × Nat)) : (mixer.renderAll buffers).Reached := by
  obtain ⟨requests, rfl⟩ := h
  exact ⟨_, renderAll_run buffers requests⟩

/-- So do triggers, one after the other. -/
theorem Reached.foldl_trigger {mixer : Mixer} (h : mixer.Reached)
    (block : List (List Float32)) :
    (block.foldl (fun mixer frames => mixer.trigger frames) mixer).Reached := by
  obtain ⟨requests, rfl⟩ := h
  exact ⟨_, (run_append_triggers requests block).symm⟩

/-- **A block of voices starts on a mixer**, all of them at once. -/
structure Starts (block : List (List Float32)) (before after : Mixer) : Prop where
  /-- The mixer holds the last 64 of the voices before, as they were, and those of the block. -/
  voices : after.voices = (before.voices ++ block.map Voice.fresh).rtake 64
  /-- A block of no voices leaves the mixer as it was. -/
  silent : block = [] → after = before
  /-- Whatever requests have led to the mixer, the block follows them, and all its cues start at the
  output frame that comes next. -/
  together : ∀ requests, before = run requests →
    after = run (requests ++ block.map .trigger) ∧
      (Timeline.run (requests ++ block.map .trigger)).starts =
        (Timeline.run requests).starts ++
          block.map fun frames => ((Timeline.run requests).now, frames)

/-- **Triggering voices one after the other starts them as a block.** -/
theorem Reached.starts_foldl_trigger {mixer : Mixer} (h : mixer.Reached)
    (block : List (List Float32)) :
    Starts block mixer (block.foldl (fun mixer frames => mixer.trigger frames) mixer) where
  voices := by
    obtain ⟨requests, rfl⟩ := h
    exact voices_foldl_trigger block (length_voices_run_le requests)
  silent := by
    rintro rfl
    rfl
  together := by
    rintro requests rfl
    exact ⟨(run_append_triggers requests block).symm, Timeline.starts_run_triggers requests block⟩

end Mixer

end DrumMachine
