import DrumMachine.CommandLine.Run
import DrumMachine.Proofs.Playback.Reports
import DrumMachine.Proofs.Printing.Lines
import DrumMachine.Rehearsal

/-! # What a printing kit has printed

Playbacks of any tablatures follow one another on the outlet of a printing kit, and after each that
was broken off within a pass the kit is told so. What it has printed by then is a line for every
complete pass, a line for every pass that was broken off, with the steps that were struck of it, and
nothing else (`Turn.lines`).

Who cancels a playback, and when, is left open: it runs on any stage that shows the outlet
(`Stage.Shows`), whatever the checks of the stage answer. -/

namespace DrumMachine

/-- **A stage that shows a kit at work.** The kit and its outlet are seen in the world. A check
leaves both as they are, and a strike is one of the kit. -/
structure Stage.Shows {σ : Type} (stage : Stage σ) (kit : σ → Kit) (outlet : σ → Outlet) :
    Prop where
  kit_check : ∀ world, kit (stage.check world).2 = kit world
  outlet_check : ∀ world, outlet (stage.check world).2 = outlet world
  kit_strike : ∀ step last world, kit (stage.strike step last world) = kit world
  outlet_strike : ∀ step last world,
    outlet (stage.strike step last world) = (kit world).strike step last (outlet world)

/-- The stage of a run shows its kit. -/
theorem Run.shows_stage (kit : Kit) (interruptAfter : Option Nat) :
    (Run.stage kit interruptAfter).Shows (fun _ => kit) id :=
  ⟨fun _ => rfl, fun _ => rfl, fun _ _ _ => rfl, fun _ _ _ => rfl⟩

/-- The stage of a rehearsal shows its kit, whatever tokens are cancelled. -/
theorem Rehearsal.shows_stage (token : Token) :
    (Rehearsal.stage token).Shows Rehearsal.kit Rehearsal.outlet := by
  refine ⟨fun _ => rfl, fun _ => rfl, ?_, ?_⟩
  · intro step last r
    show (r.strike step last).kit = r.kit
    rw [Rehearsal.strike]
    dsimp only
    split <;> rfl
  · intro step last r
    show (r.strike step last).outlet = r.kit.strike step last r.outlet
    rw [Rehearsal.strike]
    dsimp only
    split <;> rfl

/-! ## Turns and sessions -/

/-- **A playback and what came of it.** -/
structure Turn where
  tab : Tablature
  report : Report

/-- **The lines of a turn**: the whole tablature for every complete pass, and of a pass that was
broken off the steps that were struck. -/
def Turn.lines (turn : Turn) : List (List Step) :=
  List.replicate turn.report.passes turn.tab.steps ++
    if turn.report.midPass then
      [turn.tab.steps.take (turn.report.stepsPlayed % turn.tab.length)]
    else []

/-- **A kit plays a tablature**, with any player and on any stage that shows it. The outlet before
goes over to the one after. -/
inductive Kit.Plays (kit : Kit) (player : Player) (tab : Tablature) (report : Report) :
    Outlet → Outlet → Prop
  | intro {σ : Type} {stage : Stage σ} {kitOf : σ → Kit} {outletOf : σ → Outlet}
      {world world' : σ} {limit : Nat} (shows_stage : stage.Shows kitOf outletOf)
      (kitOf_eq : kitOf world = kit)
      (play_eq : Playback.play stage tab player.repeats limit world = some (report, world')) :
      Kit.Plays kit player tab report (outletOf world) (outletOf world')

/-- **A session of a kit**: turns on the outlet that it starts with, each of a tablature that was
read for the kit. A pass that was broken off is brought to the kit's notice before the next turn. -/
inductive Kit.Session (kit : Kit) (start : Outlet) : List Turn → Outlet → Prop
  | nil : Kit.Session kit start [] start
  | concat {turns : List Turn} {outlet outlet' : Outlet} {source : Source} {player : Player}
      {tab : Tablature} {report : Report} (session : Kit.Session kit start turns outlet)
      (read_eq : kit.read source = .ok tab) (plays : kit.Plays player tab report outlet outlet') :
      Kit.Session kit start (turns ++ [⟨tab, report⟩])
        (if report.midPass then kit.passInterrupted outlet' else outlet')

namespace Printing

/-! ## The bytes of the round -/

section Strikes

variable (tab : Tablature)

/-- The strikes of a pass up to a step before its last print the steps. -/
theorem flatMap_strikes_add (q : Nat) {i : Nat} (hi : i < tab.length) :
    (tab.strikes (q * tab.length + i)).flatMap strikeBytes =
      (tab.strikes (q * tab.length)).flatMap strikeBytes ++ stepsBytes (tab.steps.take i) := by
  induction i with
  | zero =>
    rw [Nat.add_zero, List.take_zero, stepsBytes, List.flatMap_nil, List.append_nil]
  | succ i ih =>
    have hsteps : i < tab.steps.length := by
      rw [← Tablature.length]
      omega
    -- step `i` is not the last one, so its strike ends no line
    have hrest : (tab.steps.drop (i + 1)).isEmpty = false := by
      rw [List.isEmpty_eq_false_iff, ← List.length_pos_iff, List.length_drop, ← Tablature.length]
      omega
    have hstrike := Playback.strikeAt_of_drop (q := q) (List.drop_eq_getElem_cons hsteps)
    rw [← Nat.add_assoc, tab.strikes_succ, List.flatMap_append, ih (by omega), hstrike, hrest,
      List.append_assoc, List.take_succ_eq_append_getElem hsteps, stepsBytes_append]
    simp [strikeBytes]

/-- **The strikes of a whole pass print a line.** -/
theorem flatMap_strikes_succ_mul (q : Nat) :
    (tab.strikes ((q + 1) * tab.length)).flatMap strikeBytes =
      (tab.strikes (q * tab.length)).flatMap strikeBytes ++ lineBytes tab.steps := by
  obtain ⟨n, hn⟩ := Nat.exists_eq_add_one_of_ne_zero tab.length_pos.ne'
  have hsteps : n < tab.steps.length := by
    rw [← Tablature.length]
    omega
  have hend : tab.steps.drop (n + 1) = [] := List.drop_eq_nil_of_le hn.le
  have hall : tab.steps.take n ++ [tab.steps[n]] = tab.steps := by
    rw [← List.take_succ_eq_append_getElem hsteps]
    exact List.take_of_length_le hn.le
  -- the last strike ends the line, so it is taken off the others
  have hstrike := Playback.strikeAt_of_drop (q := q) (List.drop_eq_getElem_cons hsteps)
  have hlast : (q + 1) * tab.length = q * tab.length + n + 1 := by
    rw [Nat.succ_mul]
    omega
  rw [hlast, tab.strikes_succ, List.flatMap_append, flatMap_strikes_add tab q (by omega), hstrike,
    hend, lineBytes]
  conv_rhs => rw [← hall, stepsBytes_append]
  simp [strikeBytes]

/-- **What the first `k` strikes print**: the lines of the complete passes, and the steps of one
more. -/
theorem flatMap_strikes (k : Nat) :
    (tab.strikes k).flatMap strikeBytes =
      (List.replicate (k / tab.length) tab.steps).flatMap lineBytes ++
        stepsBytes (tab.steps.take (k % tab.length)) := by
  have hpasses : ∀ q, (tab.strikes (q * tab.length)).flatMap strikeBytes =
      (List.replicate q tab.steps).flatMap lineBytes := by
    intro q
    induction q with
    | zero => rw [Nat.zero_mul]; rfl
    | succ q ih =>
      rw [flatMap_strikes_succ_mul, ih, List.replicate_succ', List.flatMap_append,
        List.flatMap_cons, List.flatMap_nil, List.append_nil]
  have hk : k / tab.length * tab.length + k % tab.length = k := by
    rw [Nat.mul_comm]
    exact Nat.div_add_mod k tab.length
  conv_lhs => rw [← hk]
  rw [flatMap_strikes_add tab _ (Nat.mod_lt k tab.length_pos), hpasses]

/-- The lines of a turn that was broken off are what its strikes print, and a line feed if it was
within a pass. -/
theorem flatMap_lines_brokenOff (k : Nat) :
    (Turn.lines ⟨tab, Playback.brokenOff tab k⟩).flatMap lineBytes =
      (tab.strikes k).flatMap strikeBytes ++
        if (Playback.brokenOff tab k).midPass then [lineFeed] else [] := by
  rw [flatMap_strikes, Turn.lines, List.flatMap_append, List.append_assoc]
  congr 1
  by_cases hmid : k % tab.length = 0
  · have hmidPass : (Playback.brokenOff tab k).midPass = false := by simp [Playback.brokenOff, hmid]
    simp only [hmidPass, hmid, Bool.false_eq_true, if_false]
    rfl
  · have hmidPass : (Playback.brokenOff tab k).midPass = true := by simp [Playback.brokenOff, hmid]
    simp only [hmidPass, if_true]
    rw [List.flatMap_cons, List.flatMap_nil, List.append_nil]
    rfl

/-- The line of a turn that was one whole pass. -/
theorem flatMap_lines_tally :
    (Turn.lines ⟨tab, Playback.tally tab 1⟩).flatMap lineBytes =
      (tab.strikes tab.length).flatMap strikeBytes := by
  rw [flatMap_strikes, Nat.div_self tab.length_pos, Nat.mod_self, List.take_zero, Turn.lines,
    List.flatMap_append]
  rfl

end Strikes

/-! ## One turn -/

section Turns

variable {σ : Type} {stage : Stage σ} {kitOf : σ → Kit} {outletOf : σ → Outlet}

/-- Playing a tablature leaves the kit as it is. -/
theorem kitOf_worldAt (h : stage.Shows kitOf outletOf) (tab : Tablature) (world : σ) (j : Nat) :
    kitOf (Playback.worldAt stage tab world j) = kitOf world := by
  induction j with
  | zero => rfl
  | succ j ih => rw [Playback.worldAt_succ, h.kit_strike, Playback.leftAt, h.kit_check, ih]

/-- **What the sink has taken before check number `j`.** -/
theorem takes_worldAt (h : stage.Shows kitOf outletOf) (tab : Tablature) {world : σ}
    (hkit : kitOf world = .printing) (hsome : (outletOf world).sink.manner.TakesSome) (j : Nat) :
    Sink.Takes ((outletOf world).sink.fitting ((tab.strikes j).flatMap strikeBytes))
      (outletOf world).sink (outletOf (Playback.worldAt stage tab world j)).sink := by
  induction j with
  | zero =>
    rw [tab.strikes_zero, List.flatMap_nil, Sink.fitting_nil]
    exact .of_eq rfl rfl
  | succ j ih =>
    -- the strike is one of the printing kit, on the outlet that the check has left as it was
    have hkitj : kitOf (Playback.leftAt stage tab world j) = .printing := by
      rw [Playback.leftAt, h.kit_check, kitOf_worldAt h, hkit]
    have houtlet : outletOf (Playback.leftAt stage tab world j) =
        outletOf (Playback.worldAt stage tab world j) := h.outlet_check _
    have hstrike := takes_strike (tab.strikeAt j).1 (tab.strikeAt j).2
      (outletOf (Playback.worldAt stage tab world j)) (ih.manner_eq ▸ hsome)
    rw [tab.strikes_succ, List.flatMap_append, List.flatMap_cons, List.flatMap_nil,
      List.append_nil, Sink.fitting_append ih, Playback.worldAt_succ, h.outlet_strike, hkitj,
      houtlet]
    exact ih.trans hstrike

end Turns

variable {player : Player} {tab : Tablature} {report : Report} {outlet outlet' : Outlet}

/-- **What a turn prints**, together with the line feed after a pass that was broken off. -/
theorem takes_of_plays (h : Kit.printing.Plays player tab report outlet outlet')
    (hsome : outlet.sink.manner.TakesSome) :
    Sink.Takes (outlet.sink.fitting ((Turn.lines ⟨tab, report⟩).flatMap lineBytes)) outlet.sink
      (if report.midPass then Kit.printing.passInterrupted outlet' else outlet').sink := by
  cases h with
  | @intro _ stage _ outletOf world world' _ hshows hkit hplay =>
    -- broken off, with a line feed behind the steps of the last pass, or one complete pass
    obtain ⟨k, rfl, rfl⟩ | ⟨rfl, rfl⟩ := Playback.eq_or_eq_of_play_eq_some _ _ _ hplay
    · have htakes := takes_worldAt hshows tab hkit hsome k
      have hleft : outletOf (Playback.leftAt stage tab world k) =
          outletOf (Playback.worldAt stage tab world k) := hshows.outlet_check _
      rw [flatMap_lines_brokenOff, Sink.fitting_append htakes, hleft]
      split
      · exact htakes.trans (takes_passInterrupted _ (htakes.manner_eq ▸ hsome))
      · rw [Sink.fitting_nil, List.append_nil]
        exact htakes
    · rw [flatMap_lines_tally]
      exact takes_worldAt hshows tab hkit hsome tab.length

/-- A pass is broken off within only if steps of it were struck. -/
theorem mod_length_ne_zero_of_plays (h : Kit.printing.Plays player tab report outlet outlet')
    (hmid : report.midPass = true) : report.stepsPlayed % tab.length ≠ 0 := by
  obtain ⟨-, -, hplay⟩ := h
  obtain ⟨k, rfl, -⟩ | ⟨rfl, -⟩ := Playback.eq_or_eq_of_play_eq_some _ _ _ hplay
  · simpa [Playback.brokenOff] using hmid
  · cases hmid

/-- A tablature that was read for the kit holds only drums of the kit. -/
theorem mem_drums_of_read {source : Source} (hread : Kit.printing.read source = .ok tab) :
    ∀ step ∈ tab.steps, ∀ name ∈ step, name ∈ drums := by
  intro step hstep name hname
  have hknows := Tablature.knows_of_read hread hstep hname
  rwa [Kit.knows, List.contains_iff_mem] at hknows

/-- **The lines of a turn are lines that the kit can print.** -/
theorem printable_of_mem_lines {source : Source} (hread : Kit.printing.read source = .ok tab)
    (h : Kit.printing.Plays player tab report outlet outlet') :
    ∀ steps ∈ Turn.lines ⟨tab, report⟩, Printable steps := by
  have hdrums := mem_drums_of_read hread
  intro steps hsteps
  rw [Turn.lines, List.mem_append] at hsteps
  obtain hwhole | hpart := hsteps
  · obtain rfl := List.eq_of_mem_replicate hwhole
    exact ⟨tab.steps_ne_nil, hdrums⟩
  · split at hpart
    · rename_i hmid
      obtain rfl := List.mem_singleton.mp hpart
      -- a cancellation before the first step of a pass leaves no line at all
      refine ⟨?_, fun step hstep => hdrums step (List.mem_of_mem_take hstep)⟩
      rw [ne_eq, List.take_eq_nil_iff, not_or]
      exact ⟨mod_length_ne_zero_of_plays h hmid, tab.steps_ne_nil⟩
    · exact absurd hpart List.not_mem_nil

/-! ## Sessions -/

variable {start final : Outlet} {turns : List Turn}

/-- **What a session prints**, as far as it fits. -/
theorem takes_of_session (h : Kit.printing.Session start turns final)
    (hsome : start.sink.manner.TakesSome) :
    Sink.Takes (start.sink.fitting ((turns.flatMap Turn.lines).flatMap lineBytes)) start.sink
      final.sink := by
  induction h with
  | nil =>
    rw [List.flatMap_nil, List.flatMap_nil, Sink.fitting_nil]
    exact .of_eq rfl rfl
  | concat _ _ hplays ih =>
    have hturn := takes_of_plays hplays (ih.manner_eq ▸ hsome)
    rw [List.flatMap_append, List.flatMap_append, List.flatMap_cons, List.flatMap_nil,
      List.append_nil, Sink.fitting_append ih]
    exact ih.trans hturn

/-- All lines of a session are lines of steps of the text kit. -/
theorem printable_of_session (h : Kit.printing.Session start turns final) :
    ∀ steps ∈ turns.flatMap Turn.lines, Printable steps := by
  induction h with
  | nil => simp
  | concat _ hread hplays ih =>
    intro steps hsteps
    rw [List.flatMap_append, List.mem_append, List.flatMap_cons, List.flatMap_nil,
      List.append_nil] at hsteps
    obtain hbefore | hlast := hsteps
    · exact ih steps hbefore
    · exact printable_of_mem_lines hread hplays steps hlast

/-- There is a line for every complete pass and for every pass that was broken off. -/
theorem length_flatMap_lines (turns : List Turn) :
    (turns.flatMap Turn.lines).length =
      (turns.map (·.report.passes)).sum + turns.countP (·.report.midPass) := by
  induction turns with
  | nil => rfl
  | cons turn rest ih =>
    rw [List.flatMap_cons, List.length_append, ih, Turn.lines, List.length_append,
      List.length_replicate, List.map_cons, List.sum_cons, List.countP_cons]
    split
    · rw [List.length_singleton]
      omega
    · rw [List.length_nil]
      omega

/-- **What a printing kit has printed after a session** on a sink that was new and takes everything:
exactly the lines of the turns, in order. So what was printed is nothing or ends in a line feed, it
holds no empty line, and it has one line feed for every complete pass and for every pass that was
broken off. -/
theorem printed_session (h : Kit.printing.Session start turns final)
    (hmanner : start.sink.manner.TakesAll) (hnew : start.sink.taken = #[]) :
    final.sink.taken.toList = (turns.flatMap Turn.lines).flatMap lineBytes ∧
    (final.sink.taken.toList = [] ∨ final.sink.taken.toList.getLast? = some lineFeed) ∧
    [] ∉ Tablature.untrimmedLines final.sink.taken.toList ∧
    final.sink.taken.toList.count lineFeed =
      (turns.map (·.report.passes)).sum + turns.countP (·.report.midPass) := by
  have hprinted : final.sink.taken.toList = (turns.flatMap Turn.lines).flatMap lineBytes := by
    rw [(takes_of_session h hmanner.takesSome).taken_eq, Sink.fitting_eq_self hmanner, hnew]
    rfl
  have hprintable := printable_of_session h
  refine ⟨hprinted, ?_, ?_, ?_⟩
  · rw [hprinted]
    exact eq_nil_or_getLast?_flatMap _
  · rw [hprinted]
    exact nil_notMem_untrimmedLines hprintable
  · rw [hprinted, count_lineFeed_flatMap hprintable, length_flatMap_lines]

/-- A session of two tablatures, the second one cut in the middle of a pass. -/
theorem printed_session_two_turns :
    ∃ final, Kit.printing.Session { sink := .new .willing }
        [⟨⟨["BD"], [["BD"], []], by decide⟩,
            { stepsPlayed := 3, passes := 1, cancelled := true, midPass := true }⟩,
          ⟨⟨["BD"], [["BD"], []], by decide⟩, { stepsPlayed := 2, passes := 1 }⟩] final ∧
      final.sink.taken.toList = Text.Utf8.encode "BD__\nBD\nBD__\n" ∧
      final.sink.taken.toList.count lineFeed = 3 := by
  have hread : Kit.printing.read (.ofBytes (Text.Utf8.encode "BD|o.")) =
      .ok ⟨["BD"], [["BD"], []], by decide⟩ := by decide
  -- the first player repeats until the third strike cancels it, the second plays once
  obtain ⟨r, r', hkit, houtlet, hfirst⟩ : ∃ r r' : Rehearsal, r.kit = .printing ∧
      r.outlet = { sink := .new .willing } ∧
      Playback.play (Rehearsal.stage 0) ⟨["BD"], [["BD"], []], by decide⟩ true 2 r =
        some ({ stepsPlayed := 3, passes := 1, cancelled := true, midPass := true }, r') := by
    refine ⟨{ kit := .printing, outlet := { sink := .new .willing }, countdown := 3 }, _, rfl, rfl,
      Playback.play_repeating _ _ _ (k := 3) ?_ ?_ ?_⟩ <;> decide
  obtain ⟨final, hsecond⟩ : ∃ final, Playback.play (Run.stage .printing none)
      ⟨["BD"], [["BD"], []], by decide⟩ false 1 (Kit.printing.passInterrupted r'.outlet) =
        some ({ stepsPlayed := 2, passes := 1 }, final) :=
    ⟨_, Playback.play_once_complete _ _ _ (fun _ _ => rfl) 0⟩
  have hplays : Kit.printing.Plays ⟨.standard, true, 0⟩ _ _ r.outlet r'.outlet :=
    .intro (Rehearsal.shows_stage 0) hkit hfirst
  have hplays' : Kit.printing.Plays ⟨.standard, false, 0⟩ _ _ _ final :=
    .intro (Run.shows_stage .printing none) rfl hsecond
  rw [houtlet] at hplays
  have hsession := (Kit.Session.nil.concat hread hplays).concat hread hplays'
  obtain ⟨hprinted, -, -, hcount⟩ := printed_session hsession
    ⟨fun _ => Option.some_ne_none 0 ∘ Eq.symm, rfl⟩ rfl
  refine ⟨final, hsession, ?_, hcount⟩
  exact hprinted.trans (by decide)

end Printing

end DrumMachine
