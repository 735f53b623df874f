import DrumMachine.Kit.Basic
import DrumMachine.Proofs.Stream.Writing
import DrumMachine.Proofs.Tablature.Acceptance

/-! # The lines that a printing kit prints

The printing kit prints the texts of steps, and a line feed after the last one of a pass. Read as
lines, no printed line is empty, since the text of a step never is, and none is cut short, since the
names of the drums hold no line feed. -/

namespace DrumMachine.Printing

/-! ## Bytes -/

/-- **The bytes of steps on one line**, as the kit shows them. -/
def stepsBytes (steps : List Step) : List UInt8 :=
  steps.flatMap fun step => Text.Utf8.encode (Kit.printing.listing step).inline

/-- **The bytes of a line**: those of its steps, and a line feed. -/
def lineBytes (steps : List Step) : List UInt8 := stepsBytes steps ++ [lineFeed]

/-- The bytes of a strike. -/
def strikeBytes (strike : Step × Bool) : List UInt8 :=
  stepsBytes [strike.1] ++ if strike.2 then [lineFeed] else []

/-- The end of a line is one byte. -/
theorem encode_newline : Text.Utf8.encode newline = [lineFeed] := by decide

/-- The steps of two parts are printed one part after the other. -/
theorem stepsBytes_append (steps more : List Step) :
    stepsBytes (steps ++ more) = stepsBytes steps ++ stepsBytes more := by
  rw [stepsBytes, List.flatMap_append, stepsBytes, stepsBytes]

/-- One step is printed as its text. -/
theorem stepsBytes_singleton (step : Step) :
    stepsBytes [step] = Text.Utf8.encode (stepText step) := by
  rw [stepsBytes, List.flatMap_cons, List.flatMap_nil, List.append_nil, Kit.listing,
    Text.Listing.inline_leaf]

/-! ## What the sink takes -/

/-- A flush brings no byte to the sink. -/
theorem takes_flush (sink : Sink) : Sink.Takes [] sink sink.flush.2 := .of_eq rfl rfl

/-- **Emitting texts takes what fits of them**, one after the other. -/
theorem takes_emit (texts : List String) (sink : Sink) (hsome : sink.manner.TakesSome) :
    Sink.Takes (sink.fitting (texts.flatMap Text.Utf8.encode)) sink (emit texts sink).2 := by
  induction texts generalizing sink with
  | nil =>
    rw [List.flatMap_nil, Sink.fitting_nil]
    exact takes_flush sink
  | cons text texts ih =>
    obtain ⟨htakes, hnone⟩ := Sink.takes_writeAll (Text.Utf8.encode text) sink hsome
    rw [List.flatMap_cons, Sink.fitting_append htakes, emit]
    generalize sink.writeAll (Text.Utf8.encode text) = result at htakes hnone ⊢
    obtain ⟨fault?, sink'⟩ := result
    cases fault? with
    | none => exact htakes.trans (ih sink' (htakes.manner_eq ▸ hsome))
    | some fault =>
      have hshort : sink.fitting (Text.Utf8.encode text) ≠ Text.Utf8.encode text := by
        intro hall
        exact Option.some_ne_none fault (hnone.mpr hall)
      -- the sink is full, so the texts that are given up would not have fitted
      rw [Sink.fitting_eq_nil_of_fitting_ne htakes hshort, List.append_nil]
      exact htakes

/-- A warning is logged and leaves the sink alone. -/
theorem sink_written (context : String) (result : Option Fault × Sink) (outlet : Outlet) :
    (outlet.written context result).sink = result.2 := by
  obtain ⟨fault?, sink⟩ := result
  cases fault? with
  | none => rfl
  | some fault => rfl

/-! ## Calls -/

/-- **What is asked of a printing kit.** -/
inductive Call where
  /-- Strikes a step; the flag says that it is the last of a pass. -/
  | strike (step : Step) (last : Bool)
  /-- Ends the line of a pass that was broken off. -/
  | endLine

namespace Call

/-- The texts that a call emits. -/
def texts : Call → List String
  | strike step last => if last then [stepText step, newline] else [stepText step]
  | endLine => [newline]

/-- **The bytes of a call**, all of which it is to get through. -/
def bytes (call : Call) : List UInt8 := call.texts.flatMap Text.Utf8.encode

/-- A strike prints its step, and the end of the line after the last one. -/
theorem bytes_strike (step : Step) (last : Bool) :
    (strike step last).bytes = strikeBytes (step, last) := by
  rw [bytes, texts, strikeBytes, stepsBytes_singleton]
  cases last with
  | false => simp
  | true => simp [encode_newline]

/-- The end of a line prints a line feed. -/
theorem bytes_endLine : endLine.bytes = [lineFeed] := by decide

end Call

/-- The outlet after one more call. -/
def perform (outlet : Outlet) : Call → Outlet
  | .strike step last => Kit.printing.strike step last outlet
  | .endLine => Kit.printing.passInterrupted outlet

/-- What a call does to the sink is writing its texts. -/
theorem sink_perform (outlet : Outlet) (call : Call) :
    (perform outlet call).sink = (emit call.texts outlet.sink).2 := by
  cases call <;> exact sink_written _ _ _

/-- **A call takes what fits of its bytes.** -/
theorem takes_perform {outlet : Outlet} (hsome : outlet.sink.manner.TakesSome) (call : Call) :
    Sink.Takes (outlet.sink.fitting call.bytes) outlet.sink (perform outlet call).sink := by
  rw [sink_perform]
  exact takes_emit call.texts outlet.sink hsome

/-- **A strike of the kit takes what fits of its bytes.** -/
theorem takes_strike (step : Step) (last : Bool) (outlet : Outlet)
    (hsome : outlet.sink.manner.TakesSome) :
    Sink.Takes (outlet.sink.fitting (strikeBytes (step, last))) outlet.sink
      (Kit.printing.strike step last outlet).sink := by
  rw [← Call.bytes_strike]
  exact takes_perform hsome (.strike step last)

/-- **After a pass that was broken off** the kit ends the line. -/
theorem takes_passInterrupted (outlet : Outlet) (hsome : outlet.sink.manner.TakesSome) :
    Sink.Takes (outlet.sink.fitting [lineFeed]) outlet.sink
      (Kit.printing.passInterrupted outlet).sink := by
  rw [← Call.bytes_endLine]
  exact takes_perform hsome .endLine

/-! ## The bytes of a step -/

/-- Texts one after the other have their bytes one after the other. -/
theorem encode_append (s t : String) :
    Text.Utf8.encode (s ++ t) = Text.Utf8.encode s ++ Text.Utf8.encode t := by
  rw [Text.Utf8.encode, String.toList_append, List.flatMap_append]
  rfl

/-- Only the empty text has no bytes. -/
theorem encode_ne_nil {s : String} (h : s ≠ "") : Text.Utf8.encode s ≠ [] := by
  intro hnil
  rw [Text.Utf8.encode, List.flatMap_eq_nil_iff] at hnil
  apply h
  rw [← String.toList_eq_nil_iff]
  by_cases hchars : s.toList = []
  · exact hchars
  · obtain ⟨c, hc⟩ := List.exists_mem_of_ne_nil _ hchars
    exact absurd (hnil c hc) String.utf8EncodeChar_ne_nil

/-- Every step is printed as something, a silent one too. -/
theorem stepText_ne_empty (step : Step) : stepText step ≠ "" := by
  rw [stepText]
  split
  · decide
  · rename_i hempty
    rwa [String.isEmpty_iff] at hempty

/-- No drum of the text kit has a line feed in its name. -/
theorem lineFeed_notMem_of_mem_drums {name : String} (h : name ∈ drums) :
    lineFeed ∉ Text.Utf8.encode name := by
  revert name
  decide

/-- The names of drums bring no line feed into the text of a step. -/
theorem lineFeed_notMem_foldl_addName {step : Step} (h : ∀ name ∈ step, name ∈ drums)
    {text : String} (htext : lineFeed ∉ Text.Utf8.encode text) :
    lineFeed ∉ Text.Utf8.encode (step.foldl addName text) := by
  -- on the names; the text is what those before have made
  induction step generalizing text with
  | nil => exact htext
  | cons name rest ih =>
    rw [List.forall_mem_cons] at h
    have hname := lineFeed_notMem_of_mem_drums h.1
    rw [List.foldl_cons]
    apply ih h.2
    rw [addName]
    split
    · exact hname
    · have hplus : lineFeed ∉ Text.Utf8.encode "+" := by decide
      rw [encode_append, encode_append, List.mem_append, List.mem_append]
      tauto

/-- A step of the text kit is printed within its line. -/
theorem lineFeed_notMem_stepText {step : Step} (h : ∀ name ∈ step, name ∈ drums) :
    lineFeed ∉ Text.Utf8.encode (stepText step) := by
  rw [stepText]
  split
  · decide
  · exact lineFeed_notMem_foldl_addName h (by decide)

/-! ## Lines -/

/-- **A line that the kit can print**: it has steps, and these hold only drums of the kit. -/
structure Printable (steps : List Step) : Prop where
  ne_nil : steps ≠ []
  mem_drums : ∀ step ∈ steps, ∀ name ∈ step, name ∈ drums

/-- Steps of the text kit are printed within one line. -/
theorem lineFeed_notMem_stepsBytes {steps : List Step} (h : Printable steps) :
    lineFeed ∉ stepsBytes steps := by
  intro hmem
  obtain ⟨step, hstep, hbyte⟩ := List.mem_flatMap.mp hmem
  rw [Kit.listing, Text.Listing.inline_leaf] at hbyte
  exact lineFeed_notMem_stepText (h.mem_drums step hstep) hbyte

/-- A line with a step is not empty. -/
theorem stepsBytes_ne_nil {steps : List Step} (h : Printable steps) : stepsBytes steps ≠ [] := by
  obtain ⟨step, rest, rfl⟩ := List.exists_cons_of_ne_nil h.ne_nil
  have hfirst := encode_ne_nil (stepText_ne_empty step)
  rw [← stepsBytes_singleton] at hfirst
  rw [← List.singleton_append, stepsBytes_append]
  exact List.append_ne_nil_of_left_ne_nil hfirst _

/-- Printed lines are cut where they were printed. -/
theorem cutLines_flatMap_lineBytes {lines : List (List Step)}
    (h : ∀ steps ∈ lines, Printable steps) :
    cutLines (lines.flatMap lineBytes) = (lines.map stepsBytes, []) := by
  induction lines with
  | nil => rfl
  | cons steps rest ih =>
    rw [List.forall_mem_cons] at h
    rw [List.flatMap_cons, lineBytes, List.append_assoc, List.singleton_append,
      Tablature.cutLines_append (lineFeed_notMem_stepsBytes h.1), ih h.2, List.map_cons]

/-- **No printed line is empty.** -/
theorem nil_notMem_untrimmedLines {lines : List (List Step)}
    (h : ∀ steps ∈ lines, Printable steps) :
    [] ∉ Tablature.untrimmedLines (lines.flatMap lineBytes) := by
  rw [Tablature.untrimmedLines_eq, cutLines_flatMap_lineBytes h, if_pos rfl, List.append_nil]
  intro hmem
  obtain ⟨steps, hsteps, hnil⟩ := List.mem_map.mp hmem
  exact stepsBytes_ne_nil (h steps hsteps) hnil

/-- Every printed line has one line feed. -/
theorem count_lineFeed_flatMap {lines : List (List Step)}
    (h : ∀ steps ∈ lines, Printable steps) :
    (lines.flatMap lineBytes).count lineFeed = lines.length := by
  induction lines with
  | nil => rfl
  | cons steps rest ih =>
    rw [List.forall_mem_cons] at h
    have hsteps := List.count_eq_zero_of_not_mem (lineFeed_notMem_stepsBytes h.1)
    rw [List.flatMap_cons, lineBytes, List.count_append, List.count_append, hsteps, ih h.2,
      List.count_singleton_self, List.length_cons]
    omega

/-- **What was printed is nothing or ends in a line feed.** -/
theorem eq_nil_or_getLast?_flatMap (lines : List (List Step)) :
    lines.flatMap lineBytes = [] ∨ (lines.flatMap lineBytes).getLast? = some lineFeed := by
  obtain rfl | ⟨before, steps, rfl⟩ := lines.eq_nil_or_concat
  · exact .inl rfl
  · right
    rw [List.concat_eq_append, List.flatMap_append, List.flatMap_cons, List.flatMap_nil,
      List.append_nil, lineBytes, ← List.append_assoc, List.getLast?_concat]

end DrumMachine.Printing
