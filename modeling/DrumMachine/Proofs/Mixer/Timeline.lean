import DrumMachine.Proofs.Mixer.Rendering
import Mathlib.Data.List.Induction

/-! # The timeline of a mixer

Requests to a mixer come in any order: triggers of any frames and buffers of any size. On the
timeline the output frames of all buffers are numbered through, and every trigger is a cue that
starts at the number of frames output before it. Nothing is ever taken off the timeline; a cue is
only marked when its voice is evicted, or dropped because it is over.

Output frame `T` is then said without any state of the mixer: the clamped sum of frame `T - start`
of every cue that was not evicted, in the order of the cues (`Timeline.levelAt`). The main result is
that every slot of every buffer gets exactly this (`render_timeline`). What carries the induction is
that the mixer's voices are those of the cues still held (`Timeline.Describes`), and that a dropped
cue has no frame left at any later `T` (`Timeline.Consistent`). -/

namespace DrumMachine

/-- **What is asked of a mixer.** -/
inductive Mixer.Request where
  /-- Starts a voice. -/
  | trigger (frames : List Float32)
  /-- Renders into a buffer. -/
  | render (buffer : List Float32) (channels : Nat)

/-- How many output frames a request makes. -/
def Mixer.Request.frameCount : Mixer.Request → Nat
  | trigger _ => 0
  | render buffer channels => Mixer.frameCount buffer channels

/-- The mixer after one more request. -/
def Mixer.perform (mixer : Mixer) : Mixer.Request → Mixer
  | .trigger frames => mixer.trigger frames
  | .render buffer channels => (mixer.render buffer channels).2

/-- **The mixer after a run of requests**, idle at first. -/
def Mixer.run (requests : List Mixer.Request) : Mixer := requests.foldl Mixer.perform {}

/-! ## Cues -/

/-- What became of the voice of a cue. -/
inductive Fate where
  /-- The mixer holds it. -/
  | held
  /-- It was dropped at the end of a buffer, with no frame left. -/
  | finished
  /-- It had to make room for another one. -/
  | evicted
  deriving DecidableEq

/-- **A cue**: when a voice was triggered, its frames, and what became of it. -/
structure Cue where
  /-- How many output frames there were before it. -/
  start : Nat
  frames : List Float32
  fate : Fate := .held

namespace Cue

/-- Drops a held voice that has no frame left after `now` output frames. -/
def settle (now : Nat) (cue : Cue) : Cue :=
  if cue.fate = .held ∧ cue.start + cue.frames.length ≤ now then { cue with fate := .finished }
  else cue

/-- Marks the first of the cues that is held, and so the oldest, as evicted. -/
def evictOldest : List Cue → List Cue
  | [] => []
  | cue :: rest =>
    if cue.fate = .held then { cue with fate := .evicted } :: rest else cue :: evictOldest rest

/-- The voice of a cue before output frame `T`, if it is still held. -/
def voiceAt (T : Nat) (cue : Cue) : Voice :=
  ⟨cue.frames.toArray, min (T - cue.start) cue.frames.length⟩

/-- The next frame of a cue's voice is that at its distance from the start. -/
theorem next?_voiceAt (T : Nat) (cue : Cue) :
    (cue.voiceAt T).next? = cue.frames[T - cue.start]? := by
  rw [Voice.next?, voiceAt, List.getElem?_toArray]
  by_cases hT : T - cue.start < cue.frames.length
  · rw [Nat.min_eq_left hT.le]
  · rw [Nat.min_eq_right (Nat.le_of_not_lt hT), List.getElem?_eq_none (Nat.le_of_not_lt hT),
      List.getElem?_eq_none le_rfl]

/-- **A voice moves on with the output**, until its frames are played. -/
theorem advance_voiceAt {T : Nat} {cue : Cue} (h : cue.start ≤ T) :
    (cue.voiceAt T).advance = cue.voiceAt (T + 1) := by
  rw [Voice.advance, next?_voiceAt]
  by_cases hT : T - cue.start < cue.frames.length
  · have hposition : min (T - cue.start) cue.frames.length + 1 =
        min (T + 1 - cue.start) cue.frames.length := by omega
    rw [List.getElem?_eq_getElem hT]
    simp only [voiceAt, hposition]
  · have hposition : min (T - cue.start) cue.frames.length =
        min (T + 1 - cue.start) cue.frames.length := by omega
    rw [List.getElem?_eq_none (Nat.le_of_not_lt hT)]
    simp only [voiceAt, hposition]

/-- A cue's voice is finished once all its frames have passed. -/
theorem isFinished_voiceAt {T : Nat} {cue : Cue} (h : cue.start ≤ T) :
    (cue.voiceAt T).isFinished = decide (cue.start + cue.frames.length ≤ T) := by
  have hfinished : (cue.voiceAt T).isFinished =
      decide (cue.frames.length ≤ min (T - cue.start) cue.frames.length) := by
    rw [Voice.isFinished, voiceAt, List.size_toArray]
  rw [hfinished, decide_eq_decide]
  omega

/-- The voices of cues that have started, some frames later. -/
theorem later_voiceAt {T : Nat} {cues : List Cue} (h : ∀ cue ∈ cues, cue.start ≤ T) (n : Nat) :
    Mixer.later n (cues.map (voiceAt T)) = cues.map (voiceAt (T + n)) := by
  induction n generalizing T with
  | zero => rfl
  | succ n ih =>
    have hadvance : Mixer.advance (cues.map (voiceAt T)) = cues.map (voiceAt (T + 1)) := by
      rw [Mixer.advance, List.map_map]
      exact List.map_congr_left fun cue hcue => advance_voiceAt (h cue hcue)
    have hshift : T + 1 + n = T + (n + 1) := by omega
    rw [Mixer.later_succ, hadvance, ih fun cue hcue => Nat.le_succ_of_le (h cue hcue), hshift]

end Cue

/-! ## Timelines -/

/-- **A timeline**: the output frames so far, and the cues in the order of their triggers. -/
structure Timeline where
  now : Nat := 0
  cues : List Cue := []

namespace Timeline

/-- The cues whose voices the mixer holds. -/
def held (timeline : Timeline) : List Cue := timeline.cues.filter (·.fate = .held)

/-- **What output frame `T` adds to a slot**: the clamped sum of frame `T - start` of each cue that
was not evicted. -/
def levelAt (timeline : Timeline) (T : Nat) : Float32 :=
  clampFrame (((timeline.cues.filter (·.fate ≠ .evicted)).filterMap fun cue =>
    cue.frames[T - cue.start]?).foldl (· + ·) 0)

/-- **A trigger** adds a cue. One that finds 64 voices held evicts the oldest of them. -/
def trigger (frames : List Float32) (timeline : Timeline) : Timeline :=
  { timeline with
    cues := (if timeline.held.length = 64 then Cue.evictOldest timeline.cues else timeline.cues) ++
      [{ start := timeline.now, frames }] }

/-- **A buffer** takes the output on, and voices that are over by then are dropped. -/
def render (buffer : List Float32) (channels : Nat) (timeline : Timeline) : Timeline :=
  let now := timeline.now + Mixer.frameCount buffer channels
  ⟨now, timeline.cues.map (Cue.settle now)⟩

/-- The timeline after one more request. -/
def perform (timeline : Timeline) : Mixer.Request → Timeline
  | .trigger frames => timeline.trigger frames
  | .render buffer channels => timeline.render buffer channels

/-- **The timeline of a run of requests.** -/
def run (requests : List Mixer.Request) : Timeline := requests.foldl perform {}

/-- What is always true of a timeline: cues start in the past, those that were dropped have no frame
left, those that are held are not past their end, and no more than 64 are held. -/
structure Consistent (timeline : Timeline) : Prop where
  start_le : ∀ cue ∈ timeline.cues, cue.start ≤ timeline.now
  le_now_of_finished : ∀ cue ∈ timeline.cues, cue.fate = .finished →
    cue.start + cue.frames.length ≤ timeline.now
  now_le_of_held : ∀ cue ∈ timeline.cues, cue.fate = .held →
    timeline.now ≤ cue.start + cue.frames.length
  length_held_le : timeline.held.length ≤ 64

/-- A timeline describes a mixer that holds the voices of the held cues, in their order. -/
def Describes (timeline : Timeline) (mixer : Mixer) : Prop :=
  mixer.voices = timeline.held.map (Cue.voiceAt timeline.now)

/-- A voice that is held has been triggered. -/
theorem start_le_of_mem_held {timeline : Timeline} (h : timeline.Consistent) :
    ∀ cue ∈ timeline.held, cue.start ≤ timeline.now :=
  fun cue hcue => h.start_le cue (List.mem_of_mem_filter hcue)

/-! ## Levels -/

/-- Summing the next frames of the held voices is summing the frames of all cues that were not
evicted, since those that are over have none. -/
theorem foldl_addNext {T : Nat} {cues : List Cue}
    (h : ∀ cue ∈ cues, cue.fate = .finished → cue.start + cue.frames.length ≤ T) (sum : Float32) :
    ((cues.filter (·.fate = .held)).map (Cue.voiceAt T)).foldl Mixer.addNext sum =
      ((cues.filter (·.fate ≠ .evicted)).filterMap fun cue =>
        cue.frames[T - cue.start]?).foldl (· + ·) sum := by
  induction cues generalizing sum with
  | nil => rfl
  | cons cue rest ih =>
    rw [List.forall_mem_cons] at h
    obtain ⟨hcue, hrest⟩ := h
    -- a finished cue is only in the sum of frames, but has none at `T`
    cases hfate : cue.fate with
    | held =>
      have hnext : Mixer.addNext sum (cue.voiceAt T) =
          (cue.frames[T - cue.start]?).elim sum fun frame => sum + frame := by
        rw [Mixer.addNext, Cue.next?_voiceAt]
        cases cue.frames[T - cue.start]? <;> rfl
      rw [List.filter_cons_of_pos (by simp [hfate]), List.filter_cons_of_pos (by simp [hfate]),
        List.map_cons, List.foldl_cons, hnext, ih hrest, List.filterMap_cons]
      cases cue.frames[T - cue.start]? <;> rfl
    | finished =>
      have hend := hcue hfate
      have hnone : cue.frames[T - cue.start]? = none := List.getElem?_eq_none (by omega)
      rw [List.filter_cons_of_neg (by simp [hfate]), List.filter_cons_of_pos (by simp [hfate]),
        ih hrest, List.filterMap_cons, hnone]
    | evicted =>
      rw [List.filter_cons_of_neg (by simp [hfate]), List.filter_cons_of_neg (by simp [hfate]),
        ih hrest]

/-- **The level of the mixer's voices at an output frame is that of the timeline.** -/
theorem level_later {timeline : Timeline} {mixer : Mixer} (h : timeline.Consistent)
    (hmixer : timeline.Describes mixer) (q : Nat) :
    Mixer.level (Mixer.later q mixer.voices) = timeline.levelAt (timeline.now + q) := by
  rw [hmixer, Cue.later_voiceAt (start_le_of_mem_held h), Mixer.level, held, levelAt]
  rw [foldl_addNext fun cue hcue hfinished =>
    le_trans (h.le_now_of_finished cue hcue hfinished) (by omega)]

/-! ## One request -/

/-- An eviction takes the first of the cues that are held. -/
theorem held_evictOldest (cues : List Cue) :
    (Cue.evictOldest cues).filter (·.fate = .held) =
      (cues.filter (·.fate = .held)).tail := by
  induction cues with
  | nil => rfl
  | cons cue rest ih =>
    rw [Cue.evictOldest]
    by_cases hheld : cue.fate = .held
    · rw [if_pos hheld, List.filter_cons_of_neg (by simp),
        List.filter_cons_of_pos (by simp [hheld]), List.tail_cons]
    · rw [if_neg hheld, List.filter_cons_of_neg (by simp [hheld]),
        List.filter_cons_of_neg (by simp [hheld]), ih]

/-- Eviction changes nothing but the fate of a cue that was held. -/
theorem mem_evictOldest {cues : List Cue} {cue : Cue} (h : cue ∈ Cue.evictOldest cues) :
    cue ∈ cues ∨ cue.fate = .evicted ∧ ∃ old ∈ cues, cue.start = old.start := by
  induction cues with
  | nil => exact absurd h List.not_mem_nil
  | cons first rest ih =>
    rw [Cue.evictOldest] at h
    split at h
    · obtain rfl | hrest := List.mem_cons.mp h
      · exact .inr ⟨rfl, first, by simp, rfl⟩
      · exact .inl (List.mem_cons_of_mem first hrest)
    · obtain rfl | hrest := List.mem_cons.mp h
      · exact .inl (by simp)
      · obtain hmem | ⟨hfate, old, hold, hstart⟩ := ih hrest
        · exact .inl (List.mem_cons_of_mem first hmem)
        · exact .inr ⟨hfate, old, List.mem_cons_of_mem first hold, hstart⟩

/-- The cues that a trigger leaves, before it adds its own. -/
theorem held_kept (timeline : Timeline) :
    ((if timeline.held.length = 64 then Cue.evictOldest timeline.cues
      else timeline.cues).filter (·.fate = .held)) =
      if timeline.held.length = 64 then timeline.held.tail else timeline.held := by
  split
  · exact held_evictOldest timeline.cues
  · rfl

/-- **What is held after a trigger**: the new voice, and all others unless there were 64; then the
oldest makes room. -/
theorem held_trigger (frames : List Float32) (timeline : Timeline) :
    (timeline.trigger frames).held =
      (if timeline.held.length = 64 then timeline.held.tail else timeline.held) ++
        [{ start := timeline.now, frames }] := by
  rw [held, trigger, List.filter_append, held_kept]
  rfl

/-- After a trigger a cue is an old one, one that was evicted, or the new one. -/
theorem mem_cues_trigger {timeline : Timeline} {frames : List Float32} {cue : Cue}
    (h : cue ∈ (timeline.trigger frames).cues) :
    cue ∈ timeline.cues ∨ (cue.fate = .evicted ∧ ∃ old ∈ timeline.cues, cue.start = old.start) ∨
      cue = { start := timeline.now, frames } := by
  rw [trigger, List.mem_append, List.mem_singleton] at h
  obtain hkept | hnew := h
  · split at hkept
    · exact (mem_evictOldest hkept).imp_right .inl
    · exact .inl hkept
  · exact .inr (.inr hnew)

/-- A trigger keeps a timeline consistent. -/
theorem consistent_trigger {timeline : Timeline} (h : timeline.Consistent)
    (frames : List Float32) : (timeline.trigger frames).Consistent := by
  -- a cue is an old one, an old one that has just been evicted, or the new one
  refine ⟨?_, ?_, ?_, ?_⟩
  · intro cue hcue
    obtain hold | ⟨-, old, hold, hstart⟩ | rfl := mem_cues_trigger hcue
    · exact h.start_le cue hold
    · rw [hstart]
      exact h.start_le old hold
    · exact le_rfl
  · intro cue hcue hfinished
    obtain hold | ⟨hevicted, -⟩ | rfl := mem_cues_trigger hcue
    · exact h.le_now_of_finished cue hold hfinished
    · rw [hevicted] at hfinished
      cases hfinished
    · cases hfinished
  · intro cue hcue hheld
    obtain hold | ⟨hevicted, -⟩ | rfl := mem_cues_trigger hcue
    · exact h.now_le_of_held cue hold hheld
    · rw [hevicted] at hheld
      cases hheld
    · exact Nat.le_add_right _ _
  · -- a full timeline loses a held cue before it gets the new one
    have hle := h.length_held_le
    rw [held_trigger, List.length_append, List.length_singleton]
    split
    · rw [List.length_tail]
      omega
    · omega

/-- **A trigger changes the mixer as it changes the timeline.** -/
theorem describes_trigger {timeline : Timeline} {mixer : Mixer} (h : timeline.Consistent)
    (hmixer : timeline.Describes mixer) (frames : List Float32) :
    (timeline.trigger frames).Describes (mixer.trigger frames) := by
  have hlength : mixer.voices.length = timeline.held.length := by
    rw [hmixer, List.length_map]
  -- a mixer is full exactly if its timeline is, since neither is ever more than full
  have hfull : maxVoices ≤ mixer.voices.length ↔ timeline.held.length = 64 := by
    have hle := h.length_held_le
    rw [hlength, maxVoices]
    omega
  have hnew : Cue.voiceAt timeline.now { start := timeline.now, frames } =
      { frames := frames.toArray } := by
    rw [Cue.voiceAt, Nat.sub_self, Nat.zero_min]
  rw [Describes, held_trigger, List.map_append, List.map_singleton, Mixer.trigger]
  simp only [trigger, hnew, hfull]
  rw [hmixer]
  split
  · rw [List.map_tail]
  · rfl

/-- Of the cues that were held, those that are not over stay held. -/
theorem held_settle (now : Nat) (cues : List Cue) :
    (cues.map (Cue.settle now)).filter (·.fate = .held) =
      (cues.filter (·.fate = .held)).filter fun cue =>
        !decide (cue.start + cue.frames.length ≤ now) := by
  induction cues with
  | nil => rfl
  | cons cue rest ih =>
    rw [List.map_cons, Cue.settle]
    by_cases hheld : cue.fate = .held
    · by_cases hend : cue.start + cue.frames.length ≤ now
      · rw [if_pos ⟨hheld, hend⟩, List.filter_cons_of_neg (by simp),
          List.filter_cons_of_pos (by simp [hheld]), List.filter_cons_of_neg (by simp [hend]), ih]
      · rw [if_neg fun h => hend h.2, List.filter_cons_of_pos (by simp [hheld]),
          List.filter_cons_of_pos (by simp [hheld]), List.filter_cons_of_pos (by simp [hend]), ih]
    · rw [if_neg fun h => hheld h.1, List.filter_cons_of_neg (by simp [hheld]),
        List.filter_cons_of_neg (by simp [hheld]), ih]

/-- What is held after a buffer: the cues that have frames left. -/
theorem held_render (buffer : List Float32) (channels : Nat) (timeline : Timeline) :
    (timeline.render buffer channels).held =
      timeline.held.filter fun cue =>
        !decide (cue.start + cue.frames.length ≤
          timeline.now + Mixer.frameCount buffer channels) :=
  held_settle _ timeline.cues

/-- Settling a cue leaves its start as it is. -/
theorem start_settle (now : Nat) (cue : Cue) : (cue.settle now).start = cue.start := by
  rw [Cue.settle]
  split <;> rfl

/-- A buffer keeps a timeline consistent. -/
theorem consistent_render {timeline : Timeline} (h : timeline.Consistent) (buffer : List Float32)
    (channels : Nat) : (timeline.render buffer channels).Consistent := by
  refine ⟨?_, ?_, ?_, ?_⟩
  · intro cue hcue
    obtain ⟨old, hold, rfl⟩ := List.mem_map.mp hcue
    rw [start_settle]
    exact Nat.le_add_right_of_le (h.start_le old hold)
  · intro cue hcue hfinished
    obtain ⟨old, hold, rfl⟩ := List.mem_map.mp hcue
    rw [Cue.settle] at hfinished ⊢
    -- a cue is finished by this buffer, or was before
    split at hfinished
    · rename_i hend
      rw [if_pos hend]
      exact hend.2
    · rename_i hend
      rw [if_neg hend]
      exact Nat.le_add_right_of_le (h.le_now_of_finished old hold hfinished)
  · intro cue hcue hheld
    obtain ⟨old, hold, rfl⟩ := List.mem_map.mp hcue
    rw [Cue.settle] at hheld ⊢
    split at hheld
    · cases hheld
    · rename_i hend
      rw [if_neg hend]
      exact Nat.le_of_not_le fun hle => hend ⟨hheld, hle⟩
  · rw [held_render]
    exact le_trans (List.length_filter_le _ _) h.length_held_le

/-- **A buffer changes the mixer as it changes the timeline.** -/
theorem describes_render {timeline : Timeline} {mixer : Mixer} (h : timeline.Consistent)
    (hmixer : timeline.Describes mixer) (buffer : List Float32) (channels : Nat) :
    (timeline.render buffer channels).Describes (mixer.render buffer channels).2 := by
  rw [Describes, Mixer.voices_render, hmixer, Cue.later_voiceAt (start_le_of_mem_held h),
    held_render, List.filter_map]
  -- a voice is finished exactly if its cue is over by then
  congr 1
  refine List.filter_congr fun cue hcue => ?_
  have hstart : cue.start ≤ timeline.now + Mixer.frameCount buffer channels :=
    Nat.le_add_right_of_le (start_le_of_mem_held h cue hcue)
  rw [Function.comp_apply, Cue.isFinished_voiceAt hstart]

/-! ## Runs -/

/-- A timeline is made request by request. -/
theorem run_concat (requests : List Mixer.Request) (request : Mixer.Request) :
    run (requests ++ [request]) = (run requests).perform request := by
  rw [run, List.foldl_concat, run]

/-- So is a mixer. -/
theorem mixerRun_concat (requests : List Mixer.Request) (request : Mixer.Request) :
    Mixer.run (requests ++ [request]) = (Mixer.run requests).perform request := by
  rw [Mixer.run, List.foldl_concat, Mixer.run]

/-- **A run keeps its timeline consistent and in step with the mixer.** -/
theorem run_invariant (requests : List Mixer.Request) :
    (run requests).Consistent ∧ (run requests).Describes (Mixer.run requests) := by
  induction requests using List.reverseRecOn with
  | nil => exact ⟨⟨by simp [run], by simp [run], by simp [run], by simp [run, held]⟩, rfl⟩
  | append_singleton requests request ih =>
    obtain ⟨hconsistent, hdescribes⟩ := ih
    rw [run_concat, mixerRun_concat]
    cases request with
    | trigger frames =>
      exact ⟨consistent_trigger hconsistent frames, describes_trigger hconsistent hdescribes frames⟩
    | render buffer channels =>
      exact ⟨consistent_render hconsistent buffer channels,
        describes_render hconsistent hdescribes buffer channels⟩

/-- The output frames are numbered through all buffers. -/
theorem now_run (requests : List Mixer.Request) :
    (run requests).now = (requests.map (·.frameCount)).sum := by
  induction requests using List.reverseRecOn with
  | nil => rfl
  | append_singleton requests request ih =>
    rw [run_concat, List.map_append, List.sum_append, ← ih, List.map_singleton, List.sum_singleton]
    cases request <;> rfl

end Timeline

/-- **Every slot gets the level of its output frame.** After any run of requests, slot `j` of a
buffer is raised by the level of output frame `now + j / channels` on the timeline of the run. The
mixer holds the voices of the held cues, each at the frame that is next for it; there are never more
than 64, and a trigger evicts exactly if it finds 64, and then the oldest. -/
theorem Mixer.render_timeline (requests : List Mixer.Request) :
    (∀ buffer channels, ((Mixer.run requests).render buffer channels).1 =
      buffer.mapIdx fun j slot => slot +
        (Timeline.run requests).levelAt ((requests.map (·.frameCount)).sum + j / max channels 1)) ∧
    (Mixer.run requests).voices = (Timeline.run requests).held.map (fun cue =>
      ⟨cue.frames.toArray, (requests.map (·.frameCount)).sum - cue.start⟩) ∧
    (Mixer.run requests).activeVoices ≤ 64 ∧
    ∀ frames, (Timeline.run (requests ++ [.trigger frames])).cues =
      (if (Mixer.run requests).activeVoices = 64 then
        Cue.evictOldest (Timeline.run requests).cues else (Timeline.run requests).cues) ++
      [{ start := (requests.map (·.frameCount)).sum, frames, fate := .held }] := by
  obtain ⟨hconsistent, hdescribes⟩ := Timeline.run_invariant requests
  have hactive : (Mixer.run requests).activeVoices = (Timeline.run requests).held.length := by
    rw [Mixer.activeVoices, hdescribes, List.length_map]
  rw [← Timeline.now_run]
  refine ⟨?_, ?_, ?_, ?_⟩
  · intro buffer channels
    rw [Mixer.render_fst]
    simp only [Timeline.level_later hconsistent hdescribes]
  · rw [hdescribes]
    -- a held cue is not over, so its position is its age
    refine List.map_congr_left fun cue hcue => ?_
    have hheld := hconsistent.now_le_of_held cue (List.mem_of_mem_filter hcue)
      (by simpa using List.of_mem_filter hcue)
    rw [Cue.voiceAt, Nat.min_eq_left (by omega)]
  · rw [hactive]
    exact hconsistent.length_held_le
  · intro frames
    rw [Timeline.run_concat, Timeline.perform, Timeline.trigger, hactive]

end DrumMachine
