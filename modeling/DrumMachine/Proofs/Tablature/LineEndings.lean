import DrumMachine.Proofs.Tablature.Offences

/-! # Line endings

A line may end in a line feed alone or have a carriage return before it, and the last line may have
no ending at all. None of this matters to what is read: the lines of a text are the same after
carriage returns were put before any of its bare line feeds (`textLines_insertReturns`), and after a
text that does not end in a line feed was given one (`textLines_concat_lineFeed`). A text is read by
its lines alone (`ofBytes_eq_of_textLines_eq`), so it is the same tablature, or refused for the same
error.

Both facts are proved by induction on the lines of a text (`induction_on_lines`). -/

namespace DrumMachine.Tablature

/-! ## Texts by their lines -/

/-- **Induction on the lines of a text**: the last one is what no line feed ends, and every other
one stands before a shorter text. -/
theorem induction_on_lines {holds : List UInt8 → Prop}
    (last : ∀ line, lineFeed ∉ line → holds line)
    (cons : ∀ line rest, lineFeed ∉ line → holds rest → holds (line ++ lineFeed :: rest))
    (bytes : List UInt8) : holds bytes := by
  by_cases hmem : lineFeed ∈ bytes
  · obtain ⟨line, rest, hbytes, hline⟩ := List.eq_append_cons_of_mem hmem
    have hshorter : rest.length < bytes.length := by
      rw [hbytes, List.length_append, List.length_cons]
      omega
    rw [hbytes]
    exact cons line rest hline (induction_on_lines last cons rest)
  · exact last bytes hmem
termination_by bytes.length

/-- A text without line feeds is one line, unless it is empty. -/
theorem textLines_of_notMem {line : List UInt8} (h : lineFeed ∉ line) (hne : line ≠ []) :
    textLines line = [withoutReturn line] := by
  rw [textLines, untrimmedLines_eq, cutLines_of_notMem h, if_neg hne]
  rfl

/-- **A text is read by its lines alone.** -/
theorem ofBytes_eq_of_textLines_eq {bytes bytes' : List UInt8}
    (h : textLines bytes = textLines bytes') (knows : String → Bool) :
    ofBytes knows bytes = ofBytes knows bytes' := by
  have hnil : bytes = [] ↔ bytes' = [] := by
    rw [← textLines_eq_nil_iff, h, textLines_eq_nil_iff]
  cases hread : ofBytes knows bytes' with
  | ok tab =>
    rw [ofBytes_eq_ok_iff] at hread ⊢
    rwa [h]
  | error e =>
    rw [ofBytes_eq_error_iff] at hread ⊢
    rwa [hnil, h]

/-! ## Carriage returns -/

/-- **A bare line feed** at place `i` of a text: no carriage return stands before it. -/
structure IsBareLineFeed (bytes : List UInt8) (i : Nat) : Prop where
  getElem?_eq : bytes[i]? = some '\n'.toUInt8
  before_ne : ∀ j, j + 1 = i → bytes[j]? ≠ some '\r'.toUInt8

/-- **Puts a carriage return before each of the chosen bytes** of a text. -/
def insertReturns (chosen : Nat → Bool) (bytes : List UInt8) : List UInt8 :=
  (bytes.mapIdx fun i b => if chosen i then ['\r'.toUInt8, b] else [b]).flatten

/-- The choice for the first byte, and then those for the rest. -/
theorem insertReturns_cons (chosen : Nat → Bool) (b : UInt8) (bytes : List UInt8) :
    insertReturns chosen (b :: bytes) =
      (if chosen 0 then ['\r'.toUInt8, b] else [b]) ++
        insertReturns (fun i => chosen (i + 1)) bytes := by
  rw [insertReturns, List.mapIdx_cons, List.flatten_cons, insertReturns]

/-- Carriage returns are put in part by part. -/
theorem insertReturns_append (chosen : Nat → Bool) (front rest : List UInt8) :
    insertReturns chosen (front ++ rest) =
      insertReturns chosen front ++ insertReturns (fun i => chosen (i + front.length)) rest := by
  rw [insertReturns, List.mapIdx_append, List.flatten_append, insertReturns, insertReturns]

/-- Where nothing is chosen, nothing is put in. -/
theorem insertReturns_of_forall_not_chosen {chosen : Nat → Bool} {bytes : List UInt8}
    (h : ∀ i < bytes.length, chosen i = false) : insertReturns chosen bytes = bytes := by
  induction bytes generalizing chosen with
  | nil => rfl
  | cons b bs ih =>
    have hfirst : chosen 0 = false := h 0 (by simp)
    have hrest : insertReturns (fun i => chosen (i + 1)) bs = bs :=
      ih fun i hi => h (i + 1) (by simpa using hi)
    rw [insertReturns_cons, hfirst, hrest]
    rfl

/-- A carriage return at the end of a line is lost again. -/
theorem withoutReturn_concat (line : List UInt8) :
    withoutReturn (line ++ ['\r'.toUInt8]) = line := by
  rw [withoutReturn, List.getLast?_concat, if_pos rfl, List.dropLast_concat]

section Line

variable {chosen : Nat → Bool} {line rest : List UInt8}

/-- Only line feeds are chosen, so none of the bytes of a line are. -/
theorem insertReturns_line (hline : lineFeed ∉ line)
    (h : ∀ i, chosen i = true → IsBareLineFeed (line ++ rest) i) :
    insertReturns chosen line = line := by
  refine insertReturns_of_forall_not_chosen fun i hi => ?_
  by_contra hchosen
  have hfeed := (h i (by simpa using hchosen)).getElem?_eq
  rw [List.getElem?_append_left hi] at hfeed
  exact hline (List.mem_of_getElem? hfeed)

/-- A bare line feed further on is one of what follows the line. -/
theorem isBareLineFeed_rest {i : Nat}
    (h : IsBareLineFeed (line ++ lineFeed :: rest) (i + 1 + line.length)) :
    IsBareLineFeed rest i := by
  have hshift : ∀ j, (line ++ lineFeed :: rest)[j + 1 + line.length]? = rest[j]? := by
    intro j
    rw [List.getElem?_append_right (by omega), Nat.add_sub_cancel, List.getElem?_cons_succ]
  refine ⟨hshift i ▸ h.getElem?_eq, fun j hj => ?_⟩
  rw [← hshift]
  exact h.before_ne _ (by omega)

/-- A line that ends in a bare line feed has no carriage return at its end. -/
theorem getLast?_ne_of_isBareLineFeed
    (h : IsBareLineFeed (line ++ lineFeed :: rest) line.length) :
    line.getLast? ≠ some '\r'.toUInt8 := by
  intro hlast
  have hpos : 0 < line.length := by
    rw [List.length_pos_iff]
    rintro rfl
    cases hlast
  rw [List.getLast?_eq_getElem?] at hlast
  refine h.before_ne (line.length - 1) (by omega) ?_
  rw [List.getElem?_append_left (by omega), hlast]

end Line

/-- **Carriage returns before bare line feeds leave the lines as they are.** -/
theorem textLines_insertReturns {chosen : Nat → Bool} {bytes : List UInt8}
    (h : ∀ i, chosen i = true → IsBareLineFeed bytes i) :
    textLines (insertReturns chosen bytes) = textLines bytes := by
  induction bytes using induction_on_lines generalizing chosen with
  | last line hline =>
    have hbare : ∀ i, chosen i = true → IsBareLineFeed (line ++ []) i := by simpa using h
    rw [insertReturns_line hline hbare]
  | cons line rest hline ih =>
    have hrest := ih fun i hi => isBareLineFeed_rest (h _ hi)
    rw [insertReturns_append, insertReturns_line hline h, insertReturns_cons, Nat.zero_add,
      textLines_line_append hline]
    split
    · rename_i hchosen
      -- the line ends in the new carriage return, which is lost; it had none of its own to lose
      have hbare := getLast?_ne_of_isBareLineFeed (h _ hchosen)
      have hreturn : lineFeed ∉ line ++ ['\r'.toUInt8] := by
        rw [List.mem_append, not_or]
        exact ⟨hline, by decide⟩
      have hsplit : line ++ (['\r'.toUInt8, lineFeed] ++
            insertReturns (fun i => chosen (i + 1 + line.length)) rest) =
          (line ++ ['\r'.toUInt8]) ++ lineFeed ::
            insertReturns (fun i => chosen (i + 1 + line.length)) rest := by simp
      rw [hsplit, textLines_line_append hreturn, withoutReturn_concat,
        withoutReturn_of_getLast?_ne hbare, hrest]
    · rw [List.singleton_append, textLines_line_append hline, hrest]

/-- **A line feed after the last line leaves the lines as they are**, unless there is one. -/
theorem textLines_concat_lineFeed {bytes : List UInt8} (hne : bytes ≠ [])
    (hlast : bytes.getLast? ≠ some lineFeed) :
    textLines (bytes ++ [lineFeed]) = textLines bytes := by
  induction bytes using induction_on_lines with
  | last line hline =>
    rw [textLines_line_append hline, textLines_of_notMem hline hne,
      (textLines_eq_nil_iff []).mpr rfl]
  | cons line rest hline ih =>
    -- something follows the line feed, or the text would end in it
    have hrest : rest ≠ [] := by
      rintro rfl
      exact hlast List.getLast?_concat
    have hlastRest : rest.getLast? ≠ some lineFeed := by
      rwa [List.getLast?_append_cons, List.getLast?_cons_of_ne_nil hrest] at hlast
    rw [List.append_assoc, List.cons_append, textLines_line_append hline,
      textLines_line_append hline, ih hrest hlastRest]

/-- **Line endings do not matter.** For any kit, a text is read with the same outcome, be it a
tablature or an error, after carriage returns were put before any choice of its bare line feeds;
and so is a text that does not end in a line feed after it was given one. -/
theorem ofBytes_lineEndings (knows : String → Bool) (bytes : List UInt8) :
    (∀ chosen : Nat → Bool, (∀ i, chosen i = true → IsBareLineFeed bytes i) →
      ofBytes knows (insertReturns chosen bytes) = ofBytes knows bytes) ∧
    (bytes ≠ [] → bytes.getLast? ≠ some lineFeed →
      ofBytes knows (bytes ++ [lineFeed]) = ofBytes knows bytes) := by
  constructor
  · intro chosen hchosen
    exact ofBytes_eq_of_textLines_eq (textLines_insertReturns hchosen) knows
  · intro hne hlast
    exact ofBytes_eq_of_textLines_eq (textLines_concat_lineFeed hne hlast) knows

/-- A text with both line endings and an unfinished last line that is too short. -/
theorem ofBytes_lineEndings_mixed :
    (∀ i, (i == 4) = true → IsBareLineFeed (Text.Utf8.encode "HH|o\nBD|x\r\nSD|") i) ∧
    insertReturns (· == 4) (Text.Utf8.encode "HH|o\nBD|x\r\nSD|") =
      Text.Utf8.encode "HH|o\r\nBD|x\r\nSD|" ∧
    ofBytes (fun _ => true) (Text.Utf8.encode "HH|o\r\nBD|x\r\nSD|") = .error (.badLine 3) ∧
    ofBytes (fun _ => true) (Text.Utf8.encode "HH|o\nBD|x\r\nSD|" ++ [lineFeed]) =
      .error (.badLine 3) := by
  have hbare : ∀ i, (i == 4) = true →
      IsBareLineFeed (Text.Utf8.encode "HH|o\nBD|x\r\nSD|") i := by
    intro i hi
    obtain rfl := beq_iff_eq.mp hi
    refine ⟨by decide, fun j hj => ?_⟩
    obtain rfl : j = 3 := by omega
    decide
  have hread : ofBytes (fun _ => true) (Text.Utf8.encode "HH|o\nBD|x\r\nSD|") =
      .error (.badLine 3) := by decide
  have hreturns : insertReturns (· == 4) (Text.Utf8.encode "HH|o\nBD|x\r\nSD|") =
      Text.Utf8.encode "HH|o\r\nBD|x\r\nSD|" := by decide
  obtain ⟨hchosen, hended⟩ :=
    ofBytes_lineEndings (fun _ => true) (Text.Utf8.encode "HH|o\nBD|x\r\nSD|")
  refine ⟨hbare, hreturns, ?_, ?_⟩
  · rw [← hreturns, hchosen _ hbare, hread]
  · rw [hended (by decide) (by decide), hread]

end DrumMachine.Tablature
