import DrumMachine.Proofs.Printing.Sessions
import DrumMachine.Proofs.Tablature.Written

/-! # Reading back what was printed

The steps of a pass are printed one after the other, with nothing to part them. They can be told
apart all the same: a drum of the printing kit has two bytes, a rest has two bytes, and two drums
are of one step exactly if there is a plus between them. So a printed line can be read back
(`readLine_lineBytes`).

A pass that comes to its end prints the line of its tablature and nothing else
(`printsPass_iff`). Nothing of the steps is lost by printing them, then (`readLine_printed`). -/

namespace DrumMachine.Printing

/-! ## Reading a line -/

/-- The plus that joins the drums of a step. -/
def plus : UInt8 := 0x2B

/-- What two printed bytes stand for: a drum, or none if they are those of a rest. -/
def drumsOf (a b : UInt8) : Step :=
  if Text.Utf8.decodeLossy [a, b] = rest then [] else [Text.Utf8.decodeLossy [a, b]]

/-- **Reads printed steps**, of the first of which the drums `hits` are already read. It goes on
after a plus, and is complete before any other byte. -/
def readSteps : (hits : Step) → List UInt8 → List Step
  | hits, a :: b :: c :: bytes =>
    if c = plus then readSteps (hits ++ drumsOf a b) bytes
    else (hits ++ drumsOf a b) :: readSteps [] (c :: bytes)
  | _, _ => []

/-- **Reads a printed line**, up to its line feed. -/
def readLine (line : List UInt8) : List Step := readSteps [] line

/-! ## The bytes of a step -/

/-- A plus sign is one byte. -/
theorem encode_plus : Text.Utf8.encode "+" = [plus] := by decide

/-- **A drum is printed as two bytes**, of which the first is no plus, and read as itself. -/
theorem exists_bytes_of_mem_drums {name : String} (h : name ∈ drums) :
    ∃ a b, Text.Utf8.encode name = [a, b] ∧ a ≠ plus ∧ drumsOf a b = [name] := by
  have hdrum : ∀ name ∈ drums, isDrumName name = true := by decide
  have hplus : ∀ name ∈ drums, (Text.Utf8.encode name).head? ≠ some plus := by decide
  have hrest : ∀ name ∈ drums, name ≠ rest := by decide
  obtain ⟨a, b, hbytes, hname⟩ := Tablature.exists_bytes_of_isDrumName (hdrum name h)
  refine ⟨a, b, hbytes, ?_, ?_⟩
  · rintro rfl
    exact hplus name h (by rw [hbytes, List.head?_cons])
  · rw [drumsOf, hname, if_neg (hrest name h)]

/-- No drum of the text kit has an empty name. -/
theorem ne_empty_of_mem_drums {name : String} (h : name ∈ drums) : name ≠ "" := by
  rintro rfl
  exact absurd h (by decide)

/-- The drums after the first one of a step have a plus before them. -/
theorem encode_foldl_addName (step : Step) {text : String} (h : text ≠ "") :
    Text.Utf8.encode (step.foldl addName text) =
      Text.Utf8.encode text ++ step.flatMap fun name => plus :: Text.Utf8.encode name := by
  induction step generalizing text with
  | nil => rw [List.foldl_nil, List.flatMap_nil, List.append_nil]
  | cons name step ih =>
    have hadd : addName text name = text ++ "+" ++ name := by
      rw [addName, if_neg (by simpa using h)]
    have hne : text ++ "+" ++ name ≠ "" := by simp [h]
    rw [List.foldl_cons, hadd, ih hne, encode_append, encode_append, encode_plus,
      List.flatMap_cons]
    simp

/-- The bytes of a step that strikes: names with a plus sign before every other one. -/
theorem encode_stepText_cons {name : String} (h : name ≠ "") (step : Step) :
    Text.Utf8.encode (stepText (name :: step)) =
      Text.Utf8.encode name ++ step.flatMap fun name => plus :: Text.Utf8.encode name := by
  -- no plus before the first name, as nothing is written yet
  have hfold : (name :: step).foldl addName "" = step.foldl addName name := rfl
  have hbytes := encode_foldl_addName step h
  have hne : step.foldl addName name ≠ "" := by
    intro hempty
    rw [hempty, Text.Utf8.encode_empty, eq_comm, List.append_eq_nil_iff] at hbytes
    exact encode_ne_nil h hbytes.1
  rw [stepText, hfold, if_neg (by simpa using hne), hbytes]

/-- No step is printed with a plus at its front. -/
theorem exists_stepText_eq_cons {step : Step} (h : ∀ name ∈ step, name ∈ drums) :
    ∃ a bytes, Text.Utf8.encode (stepText step) = a :: bytes ∧ a ≠ plus := by
  cases step with
  | nil => exact ⟨0x5F, [0x5F], by decide, by decide⟩
  | cons name step =>
    obtain ⟨a, b, hbytes, ha, -⟩ := exists_bytes_of_mem_drums (h name (by simp))
    rw [encode_stepText_cons (ne_empty_of_mem_drums (h name (by simp))), hbytes]
    exact ⟨a, _, rfl, ha⟩

/-! ## Reading back -/

section Drums

variable {name : String} (hname : name ∈ drums) (hits : Step)

include hname

/-- A drum with a plus after it is one of the step. -/
theorem readSteps_drum_plus (bytes : List UInt8) :
    readSteps hits (Text.Utf8.encode name ++ plus :: bytes) = readSteps (hits ++ [name]) bytes := by
  obtain ⟨a, b, hbytes, -, hdrums⟩ := exists_bytes_of_mem_drums hname
  rw [hbytes, List.cons_append, List.singleton_append, readSteps, if_pos rfl, hdrums]

/-- A drum with any other byte after it is the last one of the step. -/
theorem readSteps_drum_end {c : UInt8} (hc : c ≠ plus) (bytes : List UInt8) :
    readSteps hits (Text.Utf8.encode name ++ c :: bytes) =
      (hits ++ [name]) :: readSteps [] (c :: bytes) := by
  obtain ⟨a, b, hbytes, -, hdrums⟩ := exists_bytes_of_mem_drums hname
  rw [hbytes, List.cons_append, List.singleton_append, readSteps, if_neg hc, hdrums]

end Drums

section Steps

variable {c : UInt8} (hc : c ≠ plus) (bytes : List UInt8)

include hc

/-- **A step is read from any of its drums on**, up to the first byte that is no plus. -/
theorem readSteps_drums {name : String} {step : Step} (h : ∀ drum ∈ name :: step, drum ∈ drums)
    (hits : Step) :
    readSteps hits (Text.Utf8.encode name ++
        ((step.flatMap fun drum => plus :: Text.Utf8.encode drum) ++ c :: bytes)) =
      (hits ++ name :: step) :: readSteps [] (c :: bytes) := by
  -- on the drums after this one; a drum with a plus after it joins those already read
  induction step generalizing name hits with
  | nil =>
    rw [List.flatMap_nil, List.nil_append, readSteps_drum_end (h name (by simp)) hits hc]
  | cons next step ih =>
    rw [List.forall_mem_cons] at h
    rw [List.flatMap_cons, List.cons_append, List.cons_append, List.append_assoc,
      readSteps_drum_plus h.1, ih h.2, List.append_assoc, List.singleton_append]

/-- **A step is read back** before any byte that is no plus. -/
theorem readSteps_stepText {step : Step} (h : ∀ name ∈ step, name ∈ drums) :
    readSteps [] (Text.Utf8.encode (stepText step) ++ c :: bytes) =
      step :: readSteps [] (c :: bytes) := by
  cases step with
  | nil =>
    have hrest : Text.Utf8.encode (stepText []) = [0x5F, 0x5F] := by decide
    have hnone : drumsOf 0x5F 0x5F = [] := by decide
    rw [hrest, List.cons_append, List.singleton_append, readSteps, if_neg hc, hnone,
      List.append_nil]
  | cons name step =>
    rw [encode_stepText_cons (ne_empty_of_mem_drums (h name (by simp))), List.append_assoc,
      readSteps_drums hc bytes h, List.nil_append]

end Steps

/-- The bytes of a line start with those of its first step. -/
theorem lineBytes_cons (step : Step) (steps : List Step) :
    lineBytes (step :: steps) = Text.Utf8.encode (stepText step) ++ lineBytes steps := by
  rw [lineBytes, lineBytes, ← List.singleton_append (l := steps), stepsBytes_append,
    stepsBytes_singleton, List.append_assoc]

/-- What is left of a line does not start with a plus. -/
theorem exists_lineBytes_eq_cons {steps : List Step}
    (h : ∀ step ∈ steps, ∀ name ∈ step, name ∈ drums) :
    ∃ c bytes, lineBytes steps = c :: bytes ∧ c ≠ plus := by
  cases steps with
  | nil => exact ⟨lineFeed, [], rfl, by decide⟩
  | cons step steps =>
    obtain ⟨a, bytes, hbytes, ha⟩ := exists_stepText_eq_cons (h step (by simp))
    rw [lineBytes_cons, hbytes]
    exact ⟨a, _, rfl, ha⟩

/-- **A printed line is read back.** -/
theorem readLine_lineBytes {steps : List Step}
    (h : ∀ step ∈ steps, ∀ name ∈ step, name ∈ drums) : readLine (lineBytes steps) = steps := by
  rw [readLine]
  induction steps with
  | nil => rfl
  | cons step steps ih =>
    rw [List.forall_mem_cons] at h
    -- after the step there is another one or the line feed, and neither starts with a plus
    obtain ⟨c, bytes, hline, hc⟩ := exists_lineBytes_eq_cons h.2
    rw [lineBytes_cons, hline, readSteps_stepText hc bytes h.1, ← hline, ih h.2]

/-! ## Passes -/

/-- **What the printing kit prints in a pass** of a tablature that was read for it. The pass may be
any one of a playback, on any stage that shows the kit, but it comes to its end, and the sink takes
everything. -/
inductive PrintsPass (tab : Tablature) (printed : List UInt8) : Prop
  | intro {source : Source} {σ : Type} {stage : Stage σ} {kitOf : σ → Kit} {outletOf : σ → Outlet}
      {world world' : σ} {outcome : PassOutcome} (read_eq : Kit.printing.read source = .ok tab)
      (shows_stage : stage.Shows kitOf outletOf) (kitOf_eq : kitOf world = .printing)
      (takesAll : (outletOf world).sink.manner.TakesAll)
      (pass_eq : Playback.pass stage tab.steps world = (outcome, world'))
      (cancelled_eq : outcome.cancelled = false)
      (taken_eq : (outletOf world').sink.taken.toList =
        (outletOf world).sink.taken.toList ++ printed) :
      PrintsPass tab printed

section Passes

variable {σ : Type} {stage : Stage σ} {kitOf : σ → Kit} {outletOf : σ → Outlet} {tab : Tablature}
  {world world' : σ} {outcome : PassOutcome}

/-- A pass that comes to its end is what a player without repetition plays. -/
theorem plays_of_pass {kit : Kit} (h : stage.Shows kitOf outletOf) (hkit : kitOf world = kit)
    (hpass : Playback.pass stage tab.steps world = (outcome, world'))
    (hcomplete : outcome.cancelled = false) :
    kit.Plays ⟨.standard, false, 0⟩ tab (Playback.afterPass {} outcome) (outletOf world)
      (outletOf world') := by
  have hplay : Playback.play stage tab false 1 world =
      some (Playback.afterPass {} outcome, world') := by
    rw [Playback.play, Playback.follow, Playback.passes, hpass]
    simp only [hcomplete, Bool.false_eq_true, if_false]
    rfl
  exact .intro h hkit hplay

/-- **A pass that comes to its end prints the line of its tablature.** -/
theorem taken_of_pass (h : stage.Shows kitOf outletOf) (hkit : kitOf world = .printing)
    (hall : (outletOf world).sink.manner.TakesAll)
    (hpass : Playback.pass stage tab.steps world = (outcome, world'))
    (hcomplete : outcome.cancelled = false) :
    (outletOf world').sink.taken.toList =
      (outletOf world).sink.taken.toList ++ lineBytes tab.steps := by
  have htakes := takes_of_plays (plays_of_pass h hkit hpass hcomplete) hall.takesSome
  have hlines : Turn.lines ⟨tab, Playback.afterPass {} outcome⟩ = [tab.steps] := rfl
  rw [hlines, List.flatMap_singleton, Sink.fitting_eq_self hall] at htakes
  exact htakes.taken_eq

end Passes

/-- **The line of a tablature is what a pass of it prints**, and nothing else is. -/
theorem printsPass_iff (tab : Tablature) (printed : List UInt8) :
    PrintsPass tab printed ↔
      (∃ source, Kit.printing.read source = .ok tab) ∧ printed = lineBytes tab.steps := by
  constructor
  · rintro ⟨hread, hshows, hkit, hall, hpass, hcomplete, htaken⟩
    refine ⟨⟨_, hread⟩, ?_⟩
    rw [taken_of_pass hshows hkit hall hpass hcomplete] at htaken
    exact (List.append_cancel_left htaken).symm
  · rintro ⟨⟨source, hread⟩, rfl⟩
    -- nobody cancels a run that is not to be interrupted
    have hshows := Run.shows_stage .printing none
    have hall : ({ sink := .new .willing } : Outlet).sink.manner.TakesAll :=
      Manner.takesAll_willing
    have hpass := @Playback.pass_steps_complete _ (Run.stage .printing none) tab
      { sink := .new .willing } 0 fun _ _ _ => rfl
    rw [Playback.worldAt_zero_mul] at hpass
    exact .intro hread hshows rfl hall hpass rfl (taken_of_pass hshows rfl hall hpass rfl)

/-- **Printing loses nothing of the steps.** Every tablature that is read for the kit is printed by
a whole pass, and from what the pass prints its steps are read back. So two tablatures of which a
pass prints the same have as many steps, and in each of them the same drums in the same order. -/
theorem readLine_printed :
    (∀ source tab, Kit.printing.read source = .ok tab → ∃ printed, PrintsPass tab printed) ∧
    (∀ tab printed, PrintsPass tab printed → readLine printed = tab.steps) ∧
    ∀ tab tab' printed, PrintsPass tab printed → PrintsPass tab' printed →
      tab.length = tab'.length ∧ tab.steps = tab'.steps := by
  have hread : ∀ tab printed, PrintsPass tab printed → readLine printed = tab.steps := by
    intro tab printed h
    obtain ⟨⟨source, hsource⟩, rfl⟩ := (printsPass_iff tab printed).mp h
    exact readLine_lineBytes (mem_drums_of_read hsource)
  refine ⟨?_, hread, fun tab tab' printed h h' => ?_⟩
  · intro source tab hsource
    exact ⟨lineBytes tab.steps, (printsPass_iff tab _).mpr ⟨⟨source, hsource⟩, rfl⟩⟩
  · have hsteps : tab.steps = tab'.steps := by
      rw [← hread tab printed h, hread tab' printed h']
    exact ⟨by rw [Tablature.length, hsteps, Tablature.length], hsteps⟩

/-- Two tablatures of which a pass prints the same, although one has a drum more. -/
theorem readLine_printed_silent_drum :
    ∃ tab tab' : Tablature, tab.drums = ["SD", "HH"] ∧ tab'.drums = ["SD", "HH", "CY"] ∧
      PrintsPass tab (Text.Utf8.encode "SD+HH__SD\n") ∧
      PrintsPass tab' (Text.Utf8.encode "SD+HH__SD\n") ∧
      readLine (Text.Utf8.encode "SD+HH__SD\n") = [["SD", "HH"], [], ["SD"]] ∧
      tab.length = tab'.length ∧ tab.steps = tab'.steps := by
  have hfirst : PrintsPass ⟨["SD", "HH"], [["SD", "HH"], [], ["SD"]], by decide⟩
      (Text.Utf8.encode "SD+HH__SD\n") :=
    (printsPass_iff _ _).mpr
      ⟨⟨.ofBytes (Text.Utf8.encode "SD|o.o\nHH|o.."), by decide⟩, by decide⟩
  have hsecond : PrintsPass ⟨["SD", "HH", "CY"], [["SD", "HH"], [], ["SD"]], by decide⟩
      (Text.Utf8.encode "SD+HH__SD\n") :=
    (printsPass_iff _ _).mpr
      ⟨⟨.ofBytes (Text.Utf8.encode "SD|o.o\nHH|o\nCY|-"), by decide⟩, by decide⟩
  obtain ⟨-, hread, hsame⟩ := readLine_printed
  exact ⟨_, _, rfl, rfl, hfirst, hsecond, hread _ _ hfirst, hsame _ _ _ hfirst hsecond⟩

end DrumMachine.Printing
