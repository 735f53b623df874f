import DrumMachine.Proofs.Mixer.Blocks
import DrumMachine.Proofs.Mixer.Splitting

/-! # Voices that are still to be heard

The voices of a mixer are counted as they are held, and those that are over are dropped at the end
of every buffer. So the count is that of the voices still to be heard, with one exception: a voice
that was triggered without frames is over from the start, but is held and counted until the next
buffer (`not_activeVoices_eq_length_sounding`).

There is no other exception (`activeVoices_run`). Whatever holds of all voices that are not over and
of those that requests trigger holds of every voice that a run of requests leaves behind
(`forall_voices_run`), since one request adds the voice that it triggers, or drops what is over. -/

namespace DrumMachine

/-- A new voice is finished exactly if it has no frames. -/
theorem Voice.isFinished_fresh (frames : List Float32) :
    (Voice.fresh frames).isFinished ↔ frames = [] := by
  rw [isFinished, fresh, decide_eq_true_iff, List.size_toArray, Nat.le_zero,
    List.length_eq_zero_iff]

namespace Mixer

/-! ## What one request does to the voices -/

section Requests

variable {mixer : Mixer} {voice : Voice}

/-- After a trigger a voice is an old one or the new one. -/
theorem mem_voices_trigger {frames : List Float32} (h : voice ∈ (mixer.trigger frames).voices) :
    voice ∈ mixer.voices ∨ voice = .fresh frames := by
  rw [trigger, List.mem_append, List.mem_singleton] at h
  refine h.imp_left fun hkept => ?_
  split at hkept
  · exact List.mem_of_mem_tail hkept
  · exact hkept

/-- **A buffer leaves no voice that is over.** -/
theorem not_isFinished_of_mem_render {buffer : List Float32} {channels : Nat}
    (h : voice ∈ (mixer.render buffer channels).2.voices) : ¬ voice.isFinished := by
  rw [voices_render] at h
  simpa using List.of_mem_filter h

variable {holds : Voice → Prop} (hsounding : ∀ voice, ¬ voice.isFinished → holds voice)

include hsounding

/-- **One request** keeps what holds of all voices that are not over, provided that it holds of the
voice that is triggered. -/
theorem forall_voices_perform {request : Request}
    (htrigger : ∀ frames, request = .trigger frames → holds (.fresh frames))
    (h : ∀ voice ∈ mixer.voices, holds voice) :
    ∀ voice ∈ (mixer.perform request).voices, holds voice := by
  intro voice hvoice
  cases request with
  | trigger frames =>
    obtain hold | rfl := mem_voices_trigger hvoice
    · exact h voice hold
    · exact htrigger frames rfl
  | render buffer channels => exact hsounding voice (not_isFinished_of_mem_render hvoice)

/-- **A run of requests** leaves only voices of which it holds. -/
theorem forall_voices_run {requests : List Request}
    (htrigger : ∀ frames, .trigger frames ∈ requests → holds (.fresh frames)) :
    ∀ voice ∈ (run requests).voices, holds voice := by
  -- on the requests from the last one back, since a run hands its mixer on to the next request
  induction requests using List.reverseRecOn with
  | nil => simp [run]
  | append_singleton requests request ih =>
    rw [Timeline.mixerRun_concat]
    refine forall_voices_perform hsounding (fun frames hrequest => ?_) (ih fun frames hmem => ?_)
    · exact htrigger frames (by simp [hrequest])
    · exact htrigger frames (by simp [hmem])

end Requests

/-! ## Counting -/

/-- The voices are those that are not over and those that are. -/
theorem activeVoices_eq_add (mixer : Mixer) :
    mixer.activeVoices = (sounding mixer.voices).length + mixer.voices.countP (·.isFinished) := by
  rw [activeVoices, sounding, ← List.countP_eq_length_filter, Nat.add_comm]
  have hsplit := List.length_eq_countP_add_countP (fun voice : Voice => voice.isFinished)
    (l := mixer.voices)
  simpa using hsplit

/-- Where no voice is over, all of them are counted as sounding. -/
theorem activeVoices_eq_length_sounding {mixer : Mixer}
    (h : ∀ voice ∈ mixer.voices, ¬ voice.isFinished) :
    mixer.activeVoices = (sounding mixer.voices).length := by
  have hover : mixer.voices.countP (·.isFinished) = 0 := List.countP_eq_zero.mpr h
  rw [activeVoices_eq_add, hover, Nat.add_zero]

/-- Of the voices that a run leaves, those without frames are over, and no others. -/
theorem isFinished_iff_of_mem_run {requests : List Request} {voice : Voice}
    (h : voice ∈ (run requests).voices) : voice.isFinished ↔ voice.frames.isEmpty := by
  -- a voice that is not over satisfies this at once, and a new one is over only without frames
  have hover : ∀ voice ∈ (run requests).voices, voice.isFinished → voice.frames.isEmpty := by
    refine forall_voices_run (fun _ hsounds hover => absurd hover hsounds) ?_
    intro frames _ hover
    rw [(Voice.isFinished_fresh frames).mp hover]
    rfl
  constructor
  · exact hover voice h
  · intro hempty
    rw [Voice.isFinished, Array.isEmpty_iff_size_eq_zero.mp hempty]
    exact decide_eq_true (Nat.zero_le _)

/-- **How many voices a mixer counts** after any run of requests: at most 64, namely those that are
not over and those that have no frames. After a buffer these are just the ones that are not over,
and so they are all along if no voice is triggered without frames. -/
theorem activeVoices_run (requests : List Request) :
    (run requests).activeVoices ≤ 64 ∧
    (run requests).activeVoices =
      (sounding (run requests).voices).length +
        (run requests).voices.countP (·.frames.isEmpty) ∧
    (∀ buffer channels,
      ((run requests).render buffer channels).2.activeVoices =
        (sounding ((run requests).render buffer channels).2.voices).length) ∧
    ((∀ frames, .trigger frames ∈ requests → frames ≠ []) →
      (run requests).activeVoices = (sounding (run requests).voices).length) := by
  refine ⟨length_voices_run_le requests, ?_, ?_, ?_⟩
  · have hover : (run requests).voices.countP (·.isFinished) =
        (run requests).voices.countP (·.frames.isEmpty) :=
      List.countP_congr fun _ hvoice => isFinished_iff_of_mem_run hvoice
    rw [activeVoices_eq_add, hover]
  · intro buffer channels
    exact activeVoices_eq_length_sounding fun _ hvoice => not_isFinished_of_mem_render hvoice
  · intro hframes
    refine activeVoices_eq_length_sounding (forall_voices_run (fun _ hsounds => hsounds) ?_)
    intro frames hmem
    rw [Voice.isFinished_fresh]
    exact hframes frames hmem

/-- Of two voices one is still sounding after a frame in two channels. -/
theorem activeVoices_run_two_triggers :
    (∀ frames, Request.trigger frames ∈ [.trigger [0.5], .trigger [0.25, 0.125], .render [0, 0] 2] →
      frames ≠ []) ∧
    (run [.trigger [0.5], .trigger [0.25, 0.125], .render [0, 0] 2]).activeVoices =
      (sounding (run [.trigger [0.5], .trigger [0.25, 0.125], .render [0, 0] 2]).voices).length ∧
    (run [.trigger [0.5], .trigger [0.25, 0.125], .render [0, 0] 2]).activeVoices = 1 := by
  have hframes : ∀ frames,
      Request.trigger frames ∈ [.trigger [0.5], .trigger [0.25, 0.125], .render [0, 0] 2] →
        frames ≠ [] := by
    simp
  obtain ⟨-, -, -, hsounding⟩ :=
    activeVoices_run [.trigger [0.5], .trigger [0.25, 0.125], .render [0, 0] 2]
  exact ⟨hframes, hsounding hframes, by decide⟩

/-- **A voice without frames is counted, although it is over.** -/
theorem not_activeVoices_eq_length_sounding :
    ¬ ∀ requests, (run requests).activeVoices ≤ 64 ∧
      (run requests).activeVoices = (sounding (run requests).voices).length := by
  intro h
  have hempty : (run [.trigger []]).activeVoices ≠
      (sounding (run [.trigger []]).voices).length := by decide
  exact hempty (h [.trigger []]).2

/-- **Voices without frames displace the others**: after 64 of them nothing is left to be heard. -/
theorem sounding_run_append_empty (requests : List Request) :
    sounding (run (requests ++ (List.replicate 64 []).map .trigger)).voices = [] := by
  have hvoices : (run (requests ++ (List.replicate 64 []).map .trigger)).voices =
      List.replicate 64 (Voice.fresh []) := by
    rw [run_append_triggers, voices_foldl_trigger _ (length_voices_run_le requests), List.rtake,
      List.map_replicate, List.length_append, List.length_replicate, Nat.add_sub_cancel,
      List.drop_left]
  rw [hvoices, sounding, List.filter_replicate_of_neg (by decide)]

end Mixer

end DrumMachine
