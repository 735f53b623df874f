import DrumMachine.Proofs.Mixer.Timeline

/-! # Buffers in parts, and channels

It does not matter where a buffer is cut between two frames: rendering the parts one after the other
gives what rendering the whole gives. The two runs go through different voices, since voices that
are over are dropped at the end of each part, and are kept along to the end of the whole. They agree
because a voice that is over adds nothing and stays over (`level_later_sounding`,
`sounding_later_sounding`). Nor does the number of channels matter: each frame of a silent buffer
comes out as the same frame in mono, once for every channel (`render_silence`). -/

namespace DrumMachine

namespace Voice

/-- A voice has a next frame until it is finished. -/
theorem next?_eq_none_iff {voice : Voice} : voice.next? = none ↔ voice.isFinished := by
  rw [next?, Array.getElem?_eq_none_iff, isFinished, decide_eq_true_iff]

/-- A voice that is over stays where it is. -/
theorem advance_of_isFinished {voice : Voice} (h : voice.isFinished) : voice.advance = voice := by
  rw [advance, next?_eq_none_iff.mpr h]

end Voice

namespace Mixer

/-- **The voices that are not over.** -/
def sounding (voices : List Voice) : List Voice := voices.filter fun voice => !voice.isFinished

/-- A finished voice is not among those that sound. -/
theorem sounding_cons_of_isFinished {voice : Voice} (h : voice.isFinished) (voices : List Voice) :
    sounding (voice :: voices) = sounding voices :=
  List.filter_cons_of_neg (by simp [h])

/-- Any other voice is. -/
theorem sounding_cons_of_not_isFinished {voice : Voice} (h : ¬ voice.isFinished)
    (voices : List Voice) : sounding (voice :: voices) = voice :: sounding voices :=
  List.filter_cons_of_pos (by simp [h])

/-! ## Voices that are over -/

/-- Voices that are over add nothing to a sum. -/
theorem foldl_addNext_sounding (voices : List Voice) (sum : Float32) :
    (sounding voices).foldl addNext sum = voices.foldl addNext sum := by
  induction voices generalizing sum with
  | nil => rfl
  | cons voice voices ih =>
    by_cases h : voice.isFinished
    · have hsilent : addNext sum voice = sum := by
        rw [addNext, Voice.next?_eq_none_iff.mpr h]
      rw [sounding_cons_of_isFinished h, List.foldl_cons, hsilent, ih]
    · rw [sounding_cons_of_not_isFinished h, List.foldl_cons, List.foldl_cons, ih]

/-- Finished voices add nothing to the level. -/
theorem level_sounding (voices : List Voice) : level (sounding voices) = level voices := by
  rw [level, level, foldl_addNext_sounding]

/-- A voice that is over is over one frame later, so it may be dropped now or then. -/
theorem sounding_advance_sounding (voices : List Voice) :
    sounding (advance (sounding voices)) = sounding (advance voices) := by
  induction voices with
  | nil => rfl
  | cons voice voices ih =>
    rw [advance, advance] at ih
    by_cases h : voice.isFinished
    · have hstays : voice.advance.isFinished := by
        rw [Voice.advance_of_isFinished h]
        exact h
      rw [sounding_cons_of_isFinished h, advance, advance, List.map_cons,
        sounding_cons_of_isFinished hstays, ih]
    · -- a voice that is kept may be over after the frame, on both sides
      rw [sounding_cons_of_not_isFinished h, advance, advance, List.map_cons, List.map_cons]
      by_cases hlater : voice.advance.isFinished
      · rw [sounding_cons_of_isFinished hlater, sounding_cons_of_isFinished hlater, ih]
      · rw [sounding_cons_of_not_isFinished hlater, sounding_cons_of_not_isFinished hlater, ih]

/-- **Voices that are over may be dropped before any number of frames.** -/
theorem sounding_later_sounding (n : Nat) (voices : List Voice) :
    sounding (later n (sounding voices)) = sounding (later n voices) := by
  induction n generalizing voices with
  | zero => rw [later_zero, later_zero, sounding, sounding, List.filter_filter]; simp
  | succ n ih =>
    -- on both sides the voices that are over after one frame may be dropped as well
    rw [later_succ, later_succ, ← ih, sounding_advance_sounding, ih]

/-- Nor do they later. -/
theorem level_later_sounding (n : Nat) (voices : List Voice) :
    level (later n (sounding voices)) = level (later n voices) := by
  rw [← level_sounding, sounding_later_sounding, level_sounding]

/-- Frames pass one after the other. -/
theorem later_add (m n : Nat) (voices : List Voice) :
    later (m + n) voices = later n (later m voices) := by
  rw [later, Nat.add_comm, Function.iterate_add_apply]
  rfl

/-! ## Cutting a buffer -/

/-- **What is left after a buffer**: the voices that still sound after its frames. -/
theorem render_snd (buffer : List Float32) (channels : Nat) (mixer : Mixer) :
    (mixer.render buffer channels).2 =
      ⟨sounding (later (frameCount buffer channels) mixer.voices)⟩ := by
  rw [sounding, ← voices_render]

/-- Whole frames before a buffer add up. -/
theorem frameCount_append {channels : Nat} {a : List Float32} (h : max channels 1 ∣ a.length)
    (b : List Float32) :
    frameCount (a ++ b) channels = a.length / max channels 1 + frameCount b channels := by
  obtain ⟨k, hk⟩ := h
  have hpos : 0 < max channels 1 := by omega
  rw [frameCount, frameCount, List.length_append, hk, Nat.mul_div_cancel_left _ hpos,
    Nat.ceilDiv_eq_add_pred_div, Nat.ceilDiv_eq_add_pred_div, Nat.add_assoc, Nat.add_sub_assoc,
    Nat.mul_add_div hpos]
  omega

/-- A buffer of whole frames has just these. -/
theorem frameCount_of_dvd {channels : Nat} {a : List Float32} (h : max channels 1 ∣ a.length) :
    frameCount a channels = a.length / max channels 1 := by
  have happend := frameCount_append h []
  have hnil : frameCount [] channels = 0 := by
    rw [frameCount, List.length_nil, zero_ceilDiv]
  rwa [List.append_nil, hnil, Nat.add_zero] at happend

/-- **A buffer may be rendered in parts** that are cut between two frames. -/
theorem render_append {channels : Nat} {a : List Float32} (h : max channels 1 ∣ a.length)
    (b : List Float32) (mixer : Mixer) :
    mixer.render (a ++ b) channels =
      ((mixer.render a channels).1 ++ ((mixer.render a channels).2.render b channels).1,
        ((mixer.render a channels).2.render b channels).2) := by
  have hpos : 0 < max channels 1 := by omega
  have hframe : ∀ j, (j + a.length) / max channels 1 =
      a.length / max channels 1 + j / max channels 1 := by
    intro j
    obtain ⟨k, hk⟩ := h
    rw [hk, Nat.mul_div_cancel_left _ hpos, Nat.add_mul_div_left _ _ hpos, Nat.add_comm]
  refine Prod.ext ?_ ?_
  · rw [render_fst, render_fst, render_fst, render_snd, frameCount_of_dvd h, List.mapIdx_append]
    simp only [hframe, later_add, level_later_sounding]
  · rw [render_snd, render_snd, render_snd, frameCount_append h, frameCount_of_dvd h, later_add,
      sounding_later_sounding]

/-! ## Channels -/

/-- Rendering into silence, slot by slot. -/
theorem render_fst_replicate (n channels : Nat) (mixer : Mixer) :
    (mixer.render (List.replicate n 0) channels).1 =
      (List.range n).map fun j => 0 + level (later (j / max channels 1) mixer.voices) := by
  rw [render_fst]
  refine List.ext_getElem (by simp) fun j hj _ => ?_
  rw [List.getElem_mapIdx, List.getElem_map, List.getElem_replicate, List.getElem_range]

/-- Each number as often as numbers are divided to it. -/
theorem map_range_mul_div {α : Type} (f : Nat → α) (n : Nat) {m : Nat} (h : 0 < m) :
    (List.range (n * m)).map (fun j => f (j / m)) =
      ((List.range n).map f).flatMap fun x => List.replicate m x := by
  induction n with
  | zero => rw [Nat.zero_mul, List.range_zero, List.map_nil, List.map_nil, List.flatMap_nil]
  | succ n ih =>
    have hlast : (List.range m).map (fun j => f ((n * m + j) / m)) = List.replicate m (f n) := by
      rw [List.map_congr_left (g := fun _ => f n), List.map_const', List.length_range]
      intro j hj
      rw [Nat.mul_comm, Nat.mul_add_div h, Nat.div_eq_of_lt (List.mem_range.mp hj), Nat.add_zero]
    rw [Nat.succ_mul, List.range_add, List.map_append, ih, List.map_map, List.range_succ,
      List.map_append, List.flatMap_append, List.map_singleton, List.flatMap_singleton]
    exact congrArg _ hlast

/-- **Every channel gets what there is in mono.** -/
theorem render_silence (n channels : Nat) (mixer : Mixer) :
    mixer.render (List.replicate (n * max channels 1) 0) channels =
      ((mixer.render (List.replicate n 0) 1).1.flatMap fun frame =>
          List.replicate (max channels 1) frame,
        (mixer.render (List.replicate n 0) 1).2) := by
  have hpos : 0 < max channels 1 := by omega
  have hframes : frameCount (List.replicate (n * max channels 1) 0) channels =
      frameCount (List.replicate n 0) 1 := by
    rw [frameCount_of_dvd (by simp), frameCount_of_dvd (by simp), List.length_replicate,
      List.length_replicate, Nat.mul_div_cancel _ hpos, Nat.max_self, Nat.div_one]
  refine Prod.ext ?_ ?_
  · rw [render_fst_replicate, render_fst_replicate,
      map_range_mul_div (fun q => 0 + level (later q mixer.voices)) n hpos, Nat.max_self]
    simp only [Nat.div_one]
  · rw [render_snd, render_snd, hframes]

/-- **Neither cuts nor channels change what is heard.** On any mixer, rendering a buffer in two
parts, cut between two frames, gives the same slots and the same voices as rendering it at once; and
rendering into silence on several channels gives the frames that mono gives, each once for every
channel, and the same voices. -/
theorem render_parts_and_channels (mixer : Mixer) (channels : Nat) :
    (∀ a b : List Float32, max channels 1 ∣ a.length →
      mixer.render (a ++ b) channels =
        ((mixer.render a channels).1 ++ ((mixer.render a channels).2.render b channels).1,
          ((mixer.render a channels).2.render b channels).2)) ∧
    ∀ n, mixer.render (List.replicate (n * max channels 1) 0) channels =
      ((mixer.render (List.replicate n 0) 1).1.flatMap fun frame =>
          List.replicate (max channels 1) frame,
        (mixer.render (List.replicate n 0) 1).2) :=
  ⟨fun _ b h => render_append h b mixer, fun n => render_silence n channels mixer⟩

/-- Two voices, of which one is over at the cut, in a buffer with an incomplete last frame. -/
theorem render_parts_and_channels_two_voices :
    max 2 1 ∣ [(0 : Float32), 0].length ∧
    let mixer := run [.trigger [0.5], .trigger [0.25, 0.125]]
    mixer.render ([0, 0] ++ [0, 0, 0]) 2 =
      ((mixer.render [0, 0] 2).1 ++ ((mixer.render [0, 0] 2).2.render [0, 0, 0] 2).1,
        ((mixer.render [0, 0] 2).2.render [0, 0, 0] 2).2) ∧
    (mixer.render ([0, 0] ++ [0, 0, 0]) 2).1 = [0.75, 0.75, 0.125, 0.125, 0] :=
  ⟨by decide, (render_parts_and_channels _ 2).1 _ _ (by decide), by decide⟩

end Mixer

end DrumMachine
