import DrumMachine.Installed
import DrumMachine.Proofs.CommandLine.Phases
import DrumMachine.Proofs.Printing.Sessions

/-! # What runs leave behind

A run that fails has written nothing, and says what is wrong with the first phase that something is
wrong with. A run that does not fail plays its tablature; on the printing kit it leaves the lines of
one turn (`output_of_play`), and it ends if it is to play once or is interrupted
(`isSome_play_iff`). Settings files that differ only in what the command line gives in their place
make no difference (`outcome_in_order`). -/

namespace DrumMachine.Run

open Printing

/-! ## Printing -/

section Printing

variable (tab : Tablature)

/-- **What a new outlet has of a turn**, however the player was stopped. -/
theorem taken_of_plays {player : Player} {tab : Tablature} {report : Report} {outlet : Outlet}
    (h : Kit.printing.Plays player tab report { sink := .new .willing } outlet) :
    (if report.midPass then Kit.printing.passInterrupted outlet else outlet).sink.taken.toList =
      (Turn.lines ⟨tab, report⟩).flatMap lineBytes := by
  rw [(takes_of_plays h Manner.takesAll_willing.takesSome).taken_eq,
    Sink.fitting_eq_self Manner.takesAll_willing]
  rfl

/-- Every pass prints something. -/
theorem le_length_flatMap_strikes (n : Nat) :
    n ≤ ((tab.strikes (n * tab.length)).flatMap strikeBytes).length := by
  induction n with
  | zero => exact Nat.zero_le _
  | succ n ih =>
    rw [flatMap_strikes_succ_mul, List.length_append, lineBytes, List.length_append,
      List.length_singleton]
    omega

/-- A run that is interrupted after `n` bytes is over once `n` passes are. -/
theorem cancelledAt_stage (n : Nat) :
    Playback.cancelledAt (stage .printing (some n)) tab { sink := .new .willing }
      (n * tab.length) = true := by
  have hsome : (id ({ sink := .new .willing } : Outlet)).sink.manner.TakesSome :=
    Manner.takesAll_willing.takesSome
  have htakes := takes_worldAt (shows_stage .printing (some n)) tab rfl hsome (n * tab.length)
  have hsize := htakes.size_eq
  rw [id, id, Sink.fitting_eq_self Manner.takesAll_willing] at hsize
  have hle := le_length_flatMap_strikes tab n
  show decide (n ≤ _) = true
  rw [decide_eq_true_eq]
  exact hle.trans (hsize ▸ Nat.le_add_left _ _)

/-- **A run on the printing kit ends** if it is to play once or is interrupted. -/
theorem isSome_play_iff {prepared : Prepared} (hkit : prepared.kit = .printing) (repeats : Bool)
    (interruptAfter : Option Nat) :
    (play prepared repeats interruptAfter { sink := .new .willing }).isSome ↔
      repeats = false ∨ interruptAfter.isSome := by
  rw [play, Option.isSome_map, hkit]
  cases repeats with
  | false => simp [Playback.play_once_isSome]
  | true =>
    cases interruptAfter with
    | none =>
      -- nothing ever cancels, and there is always one more pass
      rw [Playback.play, Playback.follow_underway _ _ _ fun _ _ => rfl]
      simp [Playback.Standing.result?]
    | some n =>
      -- the check after `n` passes cancels, so at most as many are complete
      have hcancelled := cancelledAt_stage prepared.tab n
      have hfinite : Playback.checksPassed (stage .printing (some n)) prepared.tab
          { sink := .new .willing } ≠ ⊤ := by
        intro htop
        have hgo := (Playback.coe_le_checksPassed_iff _ _ _ (n * prepared.tab.length + 1)).mp
          (htop ▸ le_top)
        rw [hgo _ (Nat.lt_succ_self _)] at hcancelled
        cases hcancelled
      obtain ⟨k, -, hbreak, hgo⟩ := Playback.exists_cancelledAt_of_ne_top _ _ _ hfinite
      have hk : k ≤ n * prepared.tab.length := by
        by_contra hlt
        rw [hgo _ (Nat.lt_of_not_le hlt)] at hcancelled
        cases hcancelled
      have hlimit : k / prepared.tab.length < (some n).getD 0 + 1 :=
        Nat.lt_succ_of_le (Nat.div_le_of_le_mul (Nat.mul_comm _ _ ▸ hk))
      rw [Playback.play_repeating _ _ _ hgo hbreak hlimit]
      simp

variable {tab}

/-- **What a run prints**: a line for every complete pass, and one of the steps that were struck of
a pass that was broken off. -/
theorem output_of_play {prepared : Prepared} (hkit : prepared.kit = .printing) {repeats : Bool}
    {interruptAfter : Option Nat} {report : Report} {outlet : Outlet}
    (h : play prepared repeats interruptAfter { sink := .new .willing } = some (report, outlet)) :
    outlet.sink.taken.toList =
      (List.replicate report.passes prepared.tab.steps).flatMap lineBytes ++
        if report.midPass then
          lineBytes (prepared.tab.steps.take (report.stepsPlayed % prepared.tab.length))
        else [] := by
  rw [play, Option.map_eq_some_iff, hkit] at h
  obtain ⟨⟨report', world⟩, hplay, heq⟩ := h
  cases heq
  have hplays : Kit.printing.Plays ⟨prepared.clock, repeats, 0⟩ prepared.tab report
      { sink := .new .willing } world :=
    .intro (shows_stage .printing interruptAfter) rfl hplay
  have htaken := taken_of_plays hplays
  rw [htaken, Turn.lines, List.flatMap_append]
  congr 1
  split
  · rw [List.flatMap_cons, List.flatMap_nil, List.append_nil]
  · rfl

end Printing

/-- A run is broken off within a pass if it is cancelled after steps of that pass. -/
theorem midPass_iff_of_play {prepared : Prepared} {repeats : Bool} {interruptAfter : Option Nat}
    {report : Report} {outlet outlet' : Outlet}
    (h : play prepared repeats interruptAfter outlet = some (report, outlet')) :
    report.midPass = true ↔
      report.cancelled = true ∧ report.stepsPlayed % prepared.tab.length ≠ 0 := by
  rw [play, Option.map_eq_some_iff] at h
  obtain ⟨⟨report', world⟩, hplay, heq⟩ := h
  cases heq
  obtain ⟨k, rfl, -⟩ | ⟨rfl, -⟩ := Playback.eq_or_eq_of_play_eq_some _ _ _ hplay
  · simp [Playback.brokenOff]
  · simp [Playback.tally]

/-! ## Outcomes -/

variable {readers : SettingsFormat → Serial.Reader} {directory : Directory} {options : Options}
  {inputs : Inputs} {interruptAfter : Option Nat}

/-- **A run that is not ready to play fails with the reason**, and writes nothing. -/
theorem outcome_of_error {log : List LogEntry} {e : RunError} (hrun : options.listKits = false)
    (h : prepare readers directory options inputs = (log, .error e)) :
    outcome readers directory options inputs interruptAfter =
      some { code := failed, output := [], log, failure := some e.failure } := by
  simp only [outcome, hrun, h, Bool.false_eq_true, if_false]

/-- A run that is ready to play plays, and succeeds if it ends. -/
theorem outcome_of_ok {log : List LogEntry} {prepared : Prepared}
    (hrun : options.listKits = false)
    (h : prepare readers directory options inputs = (log, .ok prepared)) :
    outcome readers directory options inputs interruptAfter =
      (play prepared (!options.once) interruptAfter { sink := .new .willing }).map
        fun (report, outlet) =>
          { code := success
            output := outlet.sink.taken.toList
            log := log ++ openingLog prepared ++ report.log ++ outlet.log ++
              [closingLog report] } := by
  simp only [outcome, hrun, h, Bool.false_eq_true, if_false]

/-- **The first phase that something is wrong with**, and what that is. -/
def FirstError (readers : SettingsFormat → Serial.Reader) (directory : Directory)
    (options : Options) (inputs : Inputs) (phase : Phase) (e : RunError) : Prop :=
  ∃ before after, Phase.all = before ++ phase :: after ∧
    phase.error? readers directory options inputs = some e ∧
    ∀ earlier ∈ before, earlier.error? readers directory options inputs = none

/-- No phase is left out. -/
theorem mem_all (phase : Phase) : phase ∈ Phase.all := by cases phase <;> decide

/-- Going through all phases in order finds what is wrong with the first one that something is wrong
with. -/
theorem findSome?_error?_eq_some_iff {e : RunError} :
    Phase.all.findSome? (Phase.error? readers directory options inputs) = some e ↔
      ∃ phase, FirstError readers directory options inputs phase e := by
  rw [List.findSome?_eq_some_iff]
  constructor
  · rintro ⟨before, phase, after, hall, he, hbefore⟩
    exact ⟨phase, before, after, hall, he, hbefore⟩
  · rintro ⟨phase, before, after, hall, he, hbefore⟩
    exact ⟨before, phase, after, hall, he, hbefore⟩

/-- **A run that is not ready to play has a first phase that something is wrong with.** -/
theorem prepare_snd_eq_error_iff {e : RunError} :
    (prepare readers directory options inputs).2 = .error e ↔
      ∃ phase, FirstError readers directory options inputs phase e := by
  rw [← findSome?_error?_eq_some_iff, ← error?_prepare]
  cases (prepare readers directory options inputs).2 with
  | error e' => simp
  | ok prepared => simp

/-- If something is wrong with any phase, there is a first such phase. -/
theorem exists_firstError {phase : Phase} {e : RunError}
    (he : phase.error? readers directory options inputs = some e) :
    ∃ phase e, FirstError readers directory options inputs phase e := by
  obtain ⟨first, hfirst⟩ : ∃ first,
      Phase.all.findSome? (Phase.error? readers directory options inputs) = some first := by
    rw [← Option.isSome_iff_exists, List.findSome?_isSome_iff]
    exact ⟨phase, mem_all phase, he ▸ rfl⟩
  obtain ⟨phase, hphase⟩ := findSome?_error?_eq_some_iff.mp hfirst
  exact ⟨phase, first, hphase⟩

/-- **A run is ready to play if nothing is wrong with any phase.** -/
theorem exists_prepared
    (hnone : ∀ phase, Phase.error? readers directory options inputs phase = none) :
    ∃ log prepared, prepare readers directory options inputs = (log, .ok prepared) := by
  cases hresult : (prepare readers directory options inputs).2 with
  | error e =>
    obtain ⟨phase, -, -, -, he, -⟩ := prepare_snd_eq_error_iff.mp hresult
    rw [hnone phase] at he
    cases he
  | ok prepared => exact ⟨_, prepared, Prod.ext rfl hresult⟩

/-! ## Settings files -/

/-- The settings of a run are those of its file, with what the command line gives in their place. -/
theorem settings_of_load {files : Files} {path : String} {loaded : Settings}
    (hconfig : options.config = some path) (h : Settings.load readers files path = .ok loaded) :
    settings readers options files = .ok { loaded with
      bpm := options.bpm.getD loaded.bpm
      kit := options.kit.getD loaded.kit } := by
  simp only [settings, hconfig, h]

/-- Of a settings file only the settings matter that are in effect. -/
theorem outcome_congr {config : Option String}
    (h : settings readers { options with config } inputs.files =
      settings readers options inputs.files) :
    outcome readers directory { options with config } inputs interruptAfter =
      outcome readers directory options inputs interruptAfter := by
  have hprepare : prepare readers directory { options with config } inputs =
      prepare readers directory options inputs := by
    rw [prepare, prepare, h]
    rfl
  rw [outcome, outcome, hprepare]

/-- **What the command line gives goes before what a settings file says**: a file that says anything
else there is as good as the given one. -/
theorem settings_eq_of_given {files : Files} {path path' : String} {loaded loaded' : Settings}
    (hconfig : options.config = some path) (h : Settings.load readers files path = .ok loaded)
    (h' : Settings.load readers files path' = .ok loaded')
    (hgiven : options.bpm.isSome ∧ loaded' = { loaded with bpm := loaded'.bpm } ∨
      options.kit.isSome ∧ loaded' = { loaded with kit := loaded'.kit }) :
    settings readers { options with config := some path' } files =
      settings readers options files := by
  have hconfig' : ({ options with config := some path' } : Options).config = some path' := rfl
  rw [settings_of_load hconfig' h', settings_of_load hconfig h]
  rcases hgiven with ⟨hbpm, heq⟩ | ⟨hkit, heq⟩
  · obtain ⟨bpm, hbpm⟩ := Option.isSome_iff_exists.mp hbpm
    rw [heq, hbpm]
    rfl
  · obtain ⟨kit, hkit⟩ := Option.isSome_iff_exists.mp hkit
    rw [heq, hkit]
    rfl

/-- **The outcome of a run.** If something is wrong with a phase, the run fails with what is wrong
with the first such phase, and nothing has been written. If nothing is wrong with any, it plays; on
the printing kit it ends exactly if it plays once or is interrupted, and what it has written then
is a line for every complete pass and, if it was cancelled within a pass, one of the steps of that
pass that were struck. Of two settings files that differ only in the tempo, or only in the kit,
either serves as well if the command line gives the tempo, or the kit. -/
theorem outcome_in_order (readers : SettingsFormat → Serial.Reader) (directory : Directory)
    {options : Options}
    (hrun : options.listKits = false) (inputs : Inputs) (interruptAfter : Option Nat) :
    ((∃ phase e, Phase.error? readers directory options inputs phase = some e) →
      ∃ phase e, FirstError readers directory options inputs phase e) ∧
    (∀ phase e, FirstError readers directory options inputs phase e →
      ∃ log, outcome readers directory options inputs interruptAfter =
        some { code := failed, output := [], log, failure := some e.failure }) ∧
    ((∀ phase, Phase.error? readers directory options inputs phase = none) →
      ∃ log prepared, prepare readers directory options inputs = (log, .ok prepared) ∧
        IsPrepared readers directory options inputs prepared ∧
        (∀ result, outcome readers directory options inputs interruptAfter = some result →
          result.code = success ∧ result.failure = none) ∧
        (prepared.kit = .printing →
          ((outcome readers directory options inputs interruptAfter).isSome ↔
            options.once = true ∨ interruptAfter.isSome) ∧
          ∀ result, outcome readers directory options inputs interruptAfter = some result →
            ∃ report outlet, play prepared (!options.once) interruptAfter
                { sink := .new .willing } = some (report, outlet) ∧
              result.output = (List.replicate report.passes prepared.tab.steps).flatMap lineBytes ++
                (if report.midPass then
                  lineBytes (prepared.tab.steps.take (report.stepsPlayed % prepared.tab.length))
                  else []) ∧
              (report.midPass = true ↔
                report.cancelled = true ∧ report.stepsPlayed % prepared.tab.length ≠ 0))) ∧
    ∀ path path' loaded loaded', options.config = some path →
      Settings.load readers inputs.files path = .ok loaded →
      Settings.load readers inputs.files path' = .ok loaded' →
      (options.bpm.isSome ∧ loaded' = { loaded with bpm := loaded'.bpm } ∨
        options.kit.isSome ∧ loaded' = { loaded with kit := loaded'.kit }) →
      outcome readers directory { options with config := some path' } inputs interruptAfter =
        outcome readers directory options inputs interruptAfter := by
  refine ⟨?_, ?_, ?_, ?_⟩
  · rintro ⟨phase, e, he⟩
    exact exists_firstError he
  · intro phase e hfirst
    have hprepare := prepare_snd_eq_error_iff.mpr ⟨phase, hfirst⟩
    exact ⟨(prepare readers directory options inputs).1,
      outcome_of_error hrun (Prod.ext rfl hprepare)⟩
  · intro hnone
    obtain ⟨log, prepared, hprepare⟩ := exists_prepared hnone
    refine ⟨log, prepared, hprepare, isPrepared_of_prepare hprepare, ?_⟩
    rw [outcome_of_ok hrun hprepare]
    refine ⟨?_, fun hkit => ⟨?_, ?_⟩⟩
    · intro result hresult
      obtain ⟨-, -, rfl⟩ := Option.map_eq_some_iff.mp hresult
      exact ⟨rfl, rfl⟩
    · rw [Option.isSome_map, isSome_play_iff hkit]
      simp
    · intro result hresult
      obtain ⟨⟨report, outlet⟩, hplay, rfl⟩ := Option.map_eq_some_iff.mp hresult
      exact ⟨report, outlet, hplay, output_of_play hkit hplay, midPass_iff_of_play hplay⟩
  · intro path path' loaded loaded' hconfig h h' hgiven
    exact outcome_congr (settings_eq_of_given hconfig h h' hgiven)

/-- There is neither a kit of this name nor a tablature; the kit is looked up first. -/
theorem outcome_in_order_two_errors :
    ∃ log, outcome Installed.readers Installed.directory { kit := some "drums", file := some "tab" }
        ⟨fun _ => .error .notFound, []⟩ none =
      some { code := failed, output := [], log,
             failure := some ⟨"invalid kit: drums (supported: text, acoustic)", []⟩ } := by
  have hrun : ({ kit := some "drums", file := some "tab" } : Options).listKits = false := rfl
  obtain ⟨-, hfails, -⟩ :=
    outcome_in_order Installed.readers Installed.directory hrun ⟨fun _ => .error .notFound, []⟩ none
  -- the tablature cannot be opened either, but the kit is looked up first
  exact hfails .findKit (.unknownKit "drums" "text, acoustic")
    ⟨Phase.loading ++ [.setTempo], [.openTab, .buildKit, .readTab], rfl, by decide, by decide⟩

/-- A run that plays once: a step for each column, and the end of the line after the last one. -/
example :
    (outcome Installed.readers Installed.directory { once := true, file := some "tab" }
      ⟨fun _ => .ok (.file (Text.Utf8.encode "HH|o-o\nBD|--o\n")), []⟩ none).map
      (fun result => (result.code, result.output)) =
        some (success, Text.Utf8.encode "HH__HH+BD\n") := by cbv

end DrumMachine.Run
