import DrumMachine.Proofs.Playback.Kits
import DrumMachine.Proofs.Printing.Lines
import Mathlib.Data.List.Induction

/-! # What a printing kit says about a sink that gives out

A sink may take little at a time, ask again, have no more room, and fail to flush. The printing kit
makes the best of it: the sink takes what it has room for of everything that is printed, without a
gap (`taken_run`). Each call that does not get all its bytes through, or that does and cannot flush
them, is worth one warning, and no other is (`log_perform_of_fails`, `log_perform_of_not_fails`).

Playback takes no notice (`Playback.play_withKit`, `Playback.follow_recorded_withKit`): it strikes
and reports what it would with any other sink. -/

namespace DrumMachine.Printing

/-! ## Calls that fail -/

namespace Call

/-- What is logged of a call that met with a fault. -/
def warning (fault : Fault) : Call → LogEntry
  | strike _ _ => ⟨.warning, "failed to print step: " ++ fault.message, []⟩
  | endLine => ⟨.warning, "failed to end line: " ++ fault.message, []⟩

/-- **A call fails** if not all its bytes are taken, or if it comes to its flush and that fails. -/
def Fails (call : Call) (before after : Outlet) : Prop :=
  after.sink.taken.toList ≠ before.sink.taken.toList ++ call.bytes ∨
    after.sink.flushes = before.sink.flushes + 1 ∧
      (before.sink.manner.flushFault before.sink.flushes).isSome

end Call

/-- **The outlet after a run of calls.** -/
def run (calls : List Call) (outlet : Outlet) : Outlet := calls.foldl perform outlet

/-- Without a call nothing happens to the outlet. -/
@[simp] theorem run_nil (outlet : Outlet) : run [] outlet = outlet := rfl

/-- The last call is performed on the outlet that the ones before it leave. -/
theorem run_concat (calls : List Call) (call : Call) (outlet : Outlet) :
    run (calls ++ [call]) outlet = perform (run calls outlet) call := by
  rw [run, List.foldl_concat, run]

/-- A fault adds one warning to the log, and a success adds none. -/
theorem log_written (context : String) (result : Option Fault × Sink) (outlet : Outlet) :
    (outlet.written context result).log =
      outlet.log ++ result.1.toList.map fun fault => ⟨.warning, context ++ fault.message, []⟩ := by
  obtain ⟨fault?, sink⟩ := result
  cases fault? with
  | none => exact (List.append_nil _).symm
  | some fault => rfl

/-- A call logs the fault that it meets with, if it meets with one. -/
theorem log_perform (outlet : Outlet) (call : Call) :
    (perform outlet call).log =
      outlet.log ++ (emit call.texts outlet.sink).1.toList.map (call.warning ·) := by
  cases call <;> exact log_written _ _ _

/-! ## Faults -/

/-- **Texts are flushed once all of them fit**, and not before. -/
theorem flushes_emit (texts : List String) (sink : Sink) (hsome : sink.manner.TakesSome) :
    (emit texts sink).2.flushes =
      sink.flushes +
        if sink.fitting (texts.flatMap Text.Utf8.encode) = texts.flatMap Text.Utf8.encode then 1
        else 0 := by
  induction texts generalizing sink with
  | nil =>
    rw [List.flatMap_nil, Sink.fitting_nil, if_pos rfl]
    rfl
  | cons text texts ih =>
    obtain ⟨htakes, hnone⟩ := Sink.takes_writeAll (Text.Utf8.encode text) sink hsome
    have hflushes := Sink.flushes_writeAll (Text.Utf8.encode text) sink
    simp only [List.flatMap_cons, Sink.fitting_append_eq_iff htakes, ← hnone, emit]
    generalize sink.writeAll (Text.Utf8.encode text) = result at htakes hflushes ⊢
    obtain ⟨_ | fault, sink'⟩ := result
    · dsimp only at htakes hflushes ⊢
      rw [ih sink' (htakes.manner_eq ▸ hsome), hflushes]
      simp
    · -- the texts after one that does not fit are given up, and so is the flush
      simpa using hflushes

/-- **Emitting texts meets with no fault** exactly if all of them fit and the flush does not
fail. -/
theorem emit_fst_eq_none_iff (texts : List String) (sink : Sink) (hsome : sink.manner.TakesSome) :
    (emit texts sink).1 = none ↔
      sink.fitting (texts.flatMap Text.Utf8.encode) = texts.flatMap Text.Utf8.encode ∧
        sink.manner.flushFault sink.flushes = none := by
  -- on the texts; the sink after one of them has its manner and its flushes still
  induction texts generalizing sink with
  | nil =>
    rw [List.flatMap_nil, Sink.fitting_nil, emit, Sink.flush]
    simp
  | cons text texts ih =>
    obtain ⟨htakes, hnone⟩ := Sink.takes_writeAll (Text.Utf8.encode text) sink hsome
    have hflushes := Sink.flushes_writeAll (Text.Utf8.encode text) sink
    rw [List.flatMap_cons, Sink.fitting_append_eq_iff htakes, ← hnone, emit]
    generalize sink.writeAll (Text.Utf8.encode text) = result at htakes hflushes ⊢
    obtain ⟨_ | fault, sink'⟩ := result
    · dsimp only at htakes hflushes ⊢
      rw [ih sink' (htakes.manner_eq ▸ hsome), hflushes, htakes.manner_eq]
      simp
    · simp

/-! ## One call -/

section Calls

variable {outlet : Outlet} (hsome : outlet.sink.manner.TakesSome)

include hsome

/-- A call fails exactly if it meets with a fault. -/
theorem fails_iff (call : Call) :
    call.Fails outlet (perform outlet call) ↔ (emit call.texts outlet.sink).1 ≠ none := by
  have hflushes := flushes_emit call.texts outlet.sink hsome
  rw [← Call.bytes, ← sink_perform] at hflushes
  rw [Call.Fails, (takes_perform hsome call).taken_eq, ne_eq, List.append_cancel_left_eq, hflushes,
    ne_eq, emit_fst_eq_none_iff _ _ hsome, ← Call.bytes, Option.isSome_iff_ne_none]
  -- a call comes to its flush exactly if all its bytes fit
  by_cases hfits : outlet.sink.fitting call.bytes = call.bytes <;> simp [hfits]

/-- **A call that fails logs one warning.** -/
theorem log_perform_of_fails {call : Call} (h : call.Fails outlet (perform outlet call)) :
    ∃ fault, (perform outlet call).log = outlet.log ++ [call.warning fault] := by
  rw [fails_iff hsome, Option.ne_none_iff_exists'] at h
  obtain ⟨fault, hfault⟩ := h
  refine ⟨fault, ?_⟩
  rw [log_perform, hfault]
  rfl

/-- **A call that does not fail logs nothing.** -/
theorem log_perform_of_not_fails {call : Call} (h : ¬ call.Fails outlet (perform outlet call)) :
    (perform outlet call).log = outlet.log := by
  rw [fails_iff hsome, not_not] at h
  rw [log_perform, h]
  exact List.append_nil _

/-! ## Runs of calls -/

/-- **A run of calls takes what fits of all their bytes**, one after the other. -/
theorem takes_run (calls : List Call) :
    Sink.Takes (outlet.sink.fitting (calls.flatMap Call.bytes)) outlet.sink
      (run calls outlet).sink := by
  induction calls using List.reverseRecOn with
  | nil =>
    rw [List.flatMap_nil, Sink.fitting_nil]
    exact .of_eq rfl rfl
  | append_singleton calls call ih =>
    have hcall := takes_perform (ih.manner_eq ▸ hsome) call
    rw [List.flatMap_append, List.flatMap_cons, List.flatMap_nil, List.append_nil,
      Sink.fitting_append ih, run_concat]
    exact ih.trans hcall

end Calls

/-- What a sink that takes everything has of a run of calls. -/
theorem taken_run_of_takesAll {outlet : Outlet} (hall : outlet.sink.manner.TakesAll)
    (hnew : outlet.sink.taken = #[]) (calls : List Call) :
    (run calls outlet).sink.taken.toList = calls.flatMap Call.bytes := by
  rw [(takes_run hall.takesSome calls).taken_eq, Sink.fitting_eq_self hall, hnew]
  rfl

/-- **What a sink of limited room has of a run of calls.** -/
theorem taken_run {outlet : Outlet} (hsome : outlet.sink.manner.TakesSome) {room : Nat}
    (hroom : outlet.sink.manner.capacity = some room) (hnew : outlet.sink.taken = #[])
    (calls : List Call) :
    (run calls outlet).sink.taken.toList = (calls.flatMap Call.bytes).take room := by
  rw [(takes_run hsome calls).taken_eq, Sink.fitting, hroom, hnew]
  rfl

/-- **A printing kit on a sink of limited room.** The sink gets the beginning of what a sink that
takes everything would get, as far as there is room. Each call that does not get all its bytes
through or cannot flush them logs one warning, and the others log nothing. A playback has the report
and makes the strikes that it has and makes on any other sink. -/
theorem run_on_limited_sink {outlet : Outlet} {room : Nat} (hsome : outlet.sink.manner.TakesSome)
    (hroom : outlet.sink.manner.capacity = some room) (hnew : outlet.sink.taken = #[]) :
    (∀ (calls : List Call) (ideal : Outlet), ideal.sink.manner.TakesAll → ideal.sink.taken = #[] →
      (run calls outlet).sink.taken.toList = (run calls ideal).sink.taken.toList.take room) ∧
    (∀ (calls : List Call) (call : Call),
      (call.Fails (run calls outlet) (run (calls ++ [call]) outlet) →
        ∃ fault, (run (calls ++ [call]) outlet).log =
          (run calls outlet).log ++ [call.warning fault]) ∧
      (¬ call.Fails (run calls outlet) (run (calls ++ [call]) outlet) →
        (run (calls ++ [call]) outlet).log = (run calls outlet).log)) ∧
    ∀ (σ : Type) (stage : Stage σ) (tab : Tablature) (repeats : Bool) (limit : Nat) (world : σ)
      (ideal : Outlet),
      (Playback.play (stage.withKit .printing) tab repeats limit (world, outlet)).map (·.1) =
        (Playback.play (stage.withKit .printing) tab repeats limit (world, ideal)).map (·.1) ∧
      (Playback.follow (stage.withKit .printing).recorded tab repeats limit
          ((world, outlet), [])).map (·.2) =
        (Playback.follow (stage.withKit .printing).recorded tab repeats limit
          ((world, ideal), [])).map (·.2) ∧
      (Playback.follow (stage.withKit .printing).recorded tab repeats limit
          ((world, outlet), [])).world.1.2 =
        run ((Playback.follow (stage.withKit .printing).recorded tab repeats limit
          ((world, outlet), [])).world.2.map fun strike => .strike strike.1 strike.2) outlet := by
  refine ⟨?_, ?_, ?_⟩
  · intro calls ideal hall hideal
    rw [taken_run hsome hroom hnew, taken_run_of_takesAll hall hideal]
  · intro calls call
    have hsome' : (run calls outlet).sink.manner.TakesSome :=
      (takes_run hsome calls).manner_eq ▸ hsome
    rw [run_concat]
    exact ⟨log_perform_of_fails hsome', log_perform_of_not_fails hsome'⟩
  · intro σ stage tab repeats limit world ideal
    refine ⟨?_, ?_, ?_⟩
    · rw [Playback.play_withKit, Playback.play_withKit]
    · rw [Playback.follow_recorded_withKit, Playback.follow_recorded_withKit]
    · rw [Playback.outlet_follow_recorded_withKit, run, List.foldl_map]
      rfl

/-- A manner that takes two bytes at a time, is interrupted before every other write, and cannot
flush at first. -/
def grudging (room : Nat) : Manner where
  interruptions n := n % 2
  portion _ := some 2
  capacity := some room
  refusal n := if n % 2 = 0 then .takesNothing else .fails .notFound
  flushFault n := if n = 0 then some (.other "busy") else none

/-- A sink with room for six bytes takes a whole line and nothing of the next one. -/
theorem run_on_limited_sink_six_bytes :
    (run [.strike ["SD", "HH"] true, .strike [] false]
      { sink := .new (grudging 6) }).sink.taken.toList = Text.Utf8.encode "SD+HH\n" ∧
    (∃ fault, (run [.strike ["SD", "HH"] true, .strike [] false]
        { sink := .new (grudging 6) }).log =
      (run [.strike ["SD", "HH"] true] { sink := .new (grudging 6) }).log ++
        [Call.warning fault (.strike [] false)]) ∧
    (Playback.play ((Stage.stoppingAfter 3).withKit .printing) ⟨["BD"], [["BD"], []], by decide⟩
        true 2 (0, { sink := .new (grudging 6) })).map (·.1) =
      some { stepsPlayed := 3, passes := 1, cancelled := true, midPass := true } := by
  have hsome : ({ sink := .new (grudging 6) } : Outlet).sink.manner.TakesSome :=
    fun _ h => absurd (Option.some.inj h) (by decide : (2 : Nat) ≠ 0)
  have hideal : ({ sink := .new .willing } : Outlet).sink.manner.TakesAll :=
    ⟨fun _ => Option.some_ne_none 0 ∘ Eq.symm, rfl⟩
  obtain ⟨htaken, hlog, hplay⟩ := run_on_limited_sink hsome rfl rfl
  have hprinted : ∀ calls, (run calls { sink := .new (grudging 6) }).sink.taken.toList =
      (calls.flatMap Call.bytes).take 6 := by
    intro calls
    rw [htaken calls _ hideal rfl, taken_run_of_takesAll hideal rfl]
  refine ⟨(hprinted _).trans (by decide), ?_, ?_⟩
  · refine (hlog [.strike ["SD", "HH"] true] (.strike [] false)).1 (.inl ?_)
    rw [hprinted, hprinted]
    decide
  · rw [(hplay Nat _ _ true 2 0 { sink := .new .willing }).1, Playback.play_withKit]
    decide

end Printing

end DrumMachine
