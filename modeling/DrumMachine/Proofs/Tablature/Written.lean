import DrumMachine.Proofs.Stream.Reading
import DrumMachine.Proofs.Tablature.Acceptance
import DrumMachine.Proofs.Text.Order
import DrumMachine.Settings.Basic
import Mathlib.Data.List.GetD
import Mathlib.Data.List.Nodup

/-! # Tablatures as they are written

Drums with their patterns are written as one line each: the name, the bar, the pattern, and a line
feed. The drum names that settings may have are two ASCII characters, so they fill the two bytes of
a line that are read as its name (`exists_bytes_of_isDrumName`). What was written is then read back
(`ofBytes_written`), with one exception: a name with a line feed in it breaks its line, and the text
is refused. -/

namespace DrumMachine.Tablature

/-- **A line as it is written**: the name of a drum, the bar, and a pattern. -/
def writtenLine (entry : String × List UInt8) : List UInt8 :=
  Text.Utf8.encode entry.1 ++ bar :: entry.2

/-- **Drums with their patterns as a text**: a line for each, ended by a line feed. -/
def written (entries : List (String × List UInt8)) : List UInt8 :=
  entries.flatMap fun entry => writtenLine entry ++ [lineFeed]

/-- **A pattern that can be written**: it is not empty, stays on its line, and does not end in what
would be taken for a line ending. -/
structure IsPattern (pattern : List UInt8) : Prop where
  ne_nil : pattern ≠ []
  lineFeed_notMem : lineFeed ∉ pattern
  getLast?_ne : pattern.getLast? ≠ some carriageReturn

/-- Nothing is written for no entries. -/
@[simp] theorem written_nil : written [] = [] := rfl

/-- The first entry is written in a line of its own. -/
theorem written_cons (entry : String × List UInt8) (entries : List (String × List UInt8)) :
    written (entry :: entries) = writtenLine entry ++ lineFeed :: written entries := by
  simp [written]

/-- Entries are written one after the other. -/
theorem written_append (front rest : List (String × List UInt8)) :
    written (front ++ rest) = written front ++ written rest := by
  simp [written]

/-! ## Names -/

/-- A name has the byte of a line feed if it has the character. -/
theorem lineFeed_mem_encode_iff {name : String} :
    lineFeed ∈ Text.Utf8.encode name ↔ '\n' ∈ name.toList :=
  Text.Utf8.mem_encode_iff_of_ascii (by decide)

/-- **The name of a drum has two bytes**, and is the text of these. -/
theorem exists_bytes_of_isDrumName {name : String} (h : isDrumName name = true) :
    ∃ a b : UInt8, Text.Utf8.encode name = [a, b] ∧ Text.Utf8.decodeLossy [a, b] = name := by
  rw [isDrumName, Bool.and_eq_true, beq_iff_eq, List.all_eq_true] at h
  obtain ⟨hlength, hascii⟩ := h
  obtain ⟨c, d, hchars⟩ := List.length_eq_two.mp (String.length_toList ▸ hlength)
  have hc : c.toNat < 128 := by simpa using hascii c (by simp [hchars])
  have hd : d.toNat < 128 := by simpa using hascii d (by simp [hchars])
  -- an ASCII character is a byte by itself
  have hbyte : ∀ {x : Char}, x.toNat < 128 →
      UInt8.ofNat x.toNat < 0x80 ∧ Char.ofNat (UInt8.ofNat x.toNat).toNat = x := by
    intro x hx
    have hmod : x.toNat % 256 = x.toNat := Nat.mod_eq_of_lt (by omega)
    constructor
    · rw [UInt8.lt_iff_toNat_lt]
      simpa [hmod] using hx
    · simp [hmod]
  refine ⟨UInt8.ofNat c.toNat, UInt8.ofNat d.toNat, ?_, ?_⟩
  · simp [Text.Utf8.encode, hchars, Text.Utf8.utf8EncodeChar_of_ascii hc,
      Text.Utf8.utf8EncodeChar_of_ascii hd]
  · rw [Text.Utf8.decodeLossy, Text.Utf8.scalars_cons_of_ascii (hbyte hc).1,
      Text.Utf8.scalars_cons_of_ascii (hbyte hd).1, Text.Utf8.scalars_nil, (hbyte hc).2,
      (hbyte hd).2]
    simp [← hchars]

section Lines

variable {entry : String × List UInt8}

/-- **A written line is well-formed**, whatever two ASCII characters the name is. -/
theorem wellFormed_writtenLine (hname : isDrumName entry.1 = true) (hpattern : entry.2 ≠ []) :
    WellFormed (writtenLine entry) := by
  obtain ⟨a, b, hbytes, -⟩ := exists_bytes_of_isDrumName hname
  have hpos := List.length_pos_iff.mpr hpattern
  rw [WellFormed, writtenLine, hbytes]
  refine ⟨?_, rfl⟩
  simp
  omega

/-- The name is read back from its line. -/
theorem nameOf_writtenLine (hname : isDrumName entry.1 = true) :
    nameOf (writtenLine entry) = entry.1 := by
  obtain ⟨a, b, hbytes, hdecode⟩ := exists_bytes_of_isDrumName hname
  rw [nameOf, writtenLine, hbytes]
  exact hdecode

/-- The pattern is read back from its line. -/
theorem patternOf_writtenLine (hname : isDrumName entry.1 = true) :
    patternOf (writtenLine entry) = entry.2 := by
  obtain ⟨a, b, hbytes, -⟩ := exists_bytes_of_isDrumName hname
  rw [patternOf, writtenLine, hbytes]
  rfl

/-- A written line ends in no carriage return. -/
theorem withoutReturn_writtenLine (hpattern : IsPattern entry.2) :
    withoutReturn (writtenLine entry) = writtenLine entry := by
  have hlast : (writtenLine entry).getLast? = entry.2.getLast? := by
    have hne := hpattern.ne_nil
    rw [writtenLine, List.getLast?_append, List.getLast?_cons_of_ne_nil hne]
    simp [List.getLast?_eq_getLast_of_ne_nil hne]
  exact withoutReturn_of_getLast?_ne (hlast ▸ hpattern.getLast?_ne)

/-- Without a line feed in the name there is none in the line. -/
theorem lineFeed_notMem_writtenLine (hname : lineFeed ∉ Text.Utf8.encode entry.1)
    (hpattern : IsPattern entry.2) : lineFeed ∉ writtenLine entry := by
  have hbar : lineFeed ≠ bar := by decide
  rw [writtenLine, List.mem_append, List.mem_cons]
  have := hpattern.lineFeed_notMem
  tauto

end Lines

/-! ## The text -/

/-- A text without an unfinished line has its lines before those of what follows. -/
theorem untrimmedLines_append {front : List UInt8} (h : (cutLines front).2 = [])
    (rest : List UInt8) :
    untrimmedLines (front ++ rest) = (cutLines front).1 ++ untrimmedLines rest := by
  rw [untrimmedLines_eq, untrimmedLines_eq, cutLines_pieces, h, List.nil_append, List.append_assoc]

/-- What is written ends in a line feed. -/
theorem cutLines_written_snd (entries : List (String × List UInt8)) :
    (cutLines (written entries)).2 = [] := by
  induction entries with
  | nil => rfl
  | cons entry rest ih =>
    have hline : written (entry :: rest) = (writtenLine entry ++ [lineFeed]) ++ written rest := by
      simp [written_cons]
    have hend : (cutLines (writtenLine entry ++ [lineFeed])).2 = [] := by
      rw [cutLines_pieces, cutLines_unfinished (lineFeed_notMem_remainder _), cutLines_lineFeed]
      simp
    rw [hline, cutLines_pieces, hend, List.nil_append, ih]

/-- **The lines of a text that was written**, if no name breaks one. -/
theorem textLines_written {entries : List (String × List UInt8)}
    (hnames : ∀ entry ∈ entries, lineFeed ∉ Text.Utf8.encode entry.1)
    (hpatterns : ∀ entry ∈ entries, IsPattern entry.2) :
    textLines (written entries) = entries.map writtenLine := by
  induction entries with
  | nil => rfl
  | cons entry rest ih =>
    rw [List.forall_mem_cons] at hnames hpatterns
    have hline := lineFeed_notMem_writtenLine hnames.1 hpatterns.1
    rw [written_cons, textLines_line_append hline, withoutReturn_writtenLine hpatterns.1,
      ih hnames.2 hpatterns.2, List.map_cons]

/-- A name with a line feed in it leaves a line of one byte at most. -/
theorem exists_short_line_of_lineFeed {entry : String × List UInt8}
    (hname : isDrumName entry.1 = true) (hbreak : lineFeed ∈ Text.Utf8.encode entry.1) :
    ∃ line rest, writtenLine entry = line ++ lineFeed :: rest ∧ lineFeed ∉ line ∧
      line.length ≤ 1 := by
  obtain ⟨a, b, hbytes, -⟩ := exists_bytes_of_isDrumName hname
  rw [writtenLine, hbytes]
  by_cases ha : a = lineFeed
  · exact ⟨[], b :: bar :: entry.2, by simp [ha], by simp, by simp⟩
  · have hb : b = lineFeed := by
      rw [hbytes] at hbreak
      simpa [Ne.symm ha, eq_comm] using hbreak
    exact ⟨[a], bar :: entry.2, by simp [hb], by simpa using Ne.symm ha, by simp⟩

/-- **A name with a line feed in it breaks its line**, so that the text has a line too short. -/
theorem exists_not_wellFormed_of_lineFeed {entries : List (String × List UInt8)}
    {entry : String × List UInt8} (hentry : entry ∈ entries) (hname : isDrumName entry.1 = true)
    (hbreak : lineFeed ∈ Text.Utf8.encode entry.1) :
    ∃ line ∈ textLines (written entries), ¬ WellFormed line := by
  obtain ⟨front, back, rfl⟩ := List.append_of_mem hentry
  obtain ⟨line, rest, hsplit, hfree, hshort⟩ := exists_short_line_of_lineFeed hname hbreak
  refine ⟨withoutReturn line, ?_, ?_⟩
  · rw [textLines, written_append, untrimmedLines_append (cutLines_written_snd front),
      written_cons, hsplit, List.append_assoc, List.cons_append, untrimmedLines_line_append hfree]
    simp
  · intro hwell
    have hle : (withoutReturn line).length ≤ line.length := by
      rw [withoutReturn]
      split <;> simp
    have := hwell.1
    omega

/-! ## Reading it back -/

/-- Past the widest pattern no drum is hit. -/
theorem column_eq_nil_of_width_le {lines : List Line} {i : Nat} (h : width lines ≤ i) :
    column lines i = [] := by
  rw [column, List.map_eq_nil_iff, List.filter_eq_nil_iff]
  intro line hline
  rw [Line.hitsAt_of_length_le (le_trans (length_le_width hline) h)]
  simp

/-- The step of a column, and nothing past the widest pattern. -/
theorem getD_stepsOf (lines : List Line) (i : Nat) :
    (stepsOf lines).getD i [] = column lines i := by
  by_cases hi : i < (stepsOf lines).length
  · rw [List.getD_eq_getElem _ _ hi, getElem_stepsOf]
  · rw [Nat.not_lt] at hi
    rw [List.getD_eq_default _ _ hi, column_eq_nil_of_width_le (length_stepsOf lines ▸ hi)]

/-- Settings without a flaw name their drums by two ASCII characters. -/
theorem isDrumName_of_flaw?_eq_none {settings : AcousticSettings} (h : settings.flaw? = none) :
    ∀ name ∈ settings.drums.names, isDrumName name = true := by
  intro name hname
  rw [AcousticSettings.flaw?] at h
  split at h
  · cases h
  · split at h
    · cases h
    · rename_i hnone
      simpa using List.find?_eq_none.mp hnone name hname

/-- **What was written is read back**, if no name has a line feed in it. -/
theorem ofBytes_written_eq_ok {knows : String → Bool} {entries : List (String × List UInt8)}
    (hne : entries ≠ []) (hnodup : (entries.map (·.1)).Nodup)
    (hdrums : ∀ entry ∈ entries, isDrumName entry.1 = true)
    (hknows : ∀ entry ∈ entries, knows entry.1 = true)
    (hpatterns : ∀ entry ∈ entries, IsPattern entry.2)
    (hnames : ∀ entry ∈ entries, lineFeed ∉ Text.Utf8.encode entry.1) :
    ∃ tab, ofBytes knows (written entries) = .ok tab ∧ tab.drums = entries.map (·.1) ∧
      ∀ i, tab.steps.getD i [] = (entries.filter fun entry => hits entry.2 i).map (·.1) := by
  have hlines := textLines_written hnames hpatterns
  have hwell : ∀ text ∈ textLines (written entries), WellFormed text := by
    rw [hlines, List.forall_mem_map]
    exact fun entry hentry =>
      wellFormed_writtenLine (hdrums entry hentry) (hpatterns entry hentry).ne_nil
  have hnameOf : (textLines (written entries)).map nameOf = entries.map (·.1) := by
    rw [hlines, List.map_map]
    exact List.map_congr_left fun entry hentry => nameOf_writtenLine (hdrums entry hentry)
  have haccepted : Accepted knows (textLines (written entries)) := by
    refine ⟨hwell, ?_, hnameOf ▸ hnodup⟩
    rw [hlines, List.forall_mem_map]
    intro entry hentry
    rw [nameOf_writtenLine (hdrums entry hentry)]
    exact hknows entry hentry
  -- what is read is described line by line, and the lines are those that were written
  obtain ⟨lines, hdescribes⟩ := exists_describes hwell
  have hmap := map_name_of_describes hdescribes
  have hnil : lines ≠ [] := by
    rintro rfl
    rw [hnameOf, List.map_nil, eq_comm, List.map_eq_nil_iff] at hmap
    exact hne hmap
  refine ⟨⟨lines.map (·.name), stepsOf lines, stepsOf_ne_nil (width_pos hnil).ne'⟩, ?_, ?_, ?_⟩
  · exact (ofBytes_eq_ok_iff _ _ _).mpr ⟨lines, hdescribes, haccepted, hnil, rfl, rfl⟩
  · exact hmap.trans hnameOf
  · intro i
    rw [getD_stepsOf, column_of_describes hdescribes, hlines, List.filter_map, List.map_map]
    have hfilter : entries.filter ((fun text => hits (patternOf text) i) ∘ writtenLine) =
        entries.filter fun entry => hits entry.2 i := by
      apply List.filter_congr
      intro entry hentry
      rw [Function.comp_apply, patternOf_writtenLine (hdrums entry hentry)]
    rw [hfilter]
    apply List.map_congr_left
    intro entry hentry
    exact nameOf_writtenLine (hdrums entry (List.mem_of_mem_filter hentry))

/-- **Drums that settings let through, written as a tablature.** A kit that knows exactly these
drums reads the text if no name has a line feed in it, and only then. It reads what was written: the
drums in the order of their lines, and in the step of a column those whose patterns hit it. -/
theorem ofBytes_written {settings : AcousticSettings} {knows : String → Bool}
    {entries : List (String × List UInt8)} (hvalid : settings.flaw? = none)
    (hknows : ∀ name, knows name = true ↔ name ∈ settings.drums.names) (hne : entries ≠ [])
    (hnodup : (entries.map (·.1)).Nodup)
    (hchosen : ∀ entry ∈ entries, entry.1 ∈ settings.drums.names)
    (hpatterns : ∀ entry ∈ entries, IsPattern entry.2) :
    ((∃ tab, ofBytes knows (written entries) = .ok tab) ↔
      ∀ entry ∈ entries, '\n' ∉ entry.1.toList) ∧
    ∀ tab, ofBytes knows (written entries) = .ok tab →
      tab.drums = entries.map (·.1) ∧
      ∀ i, tab.steps.getD i [] = (entries.filter fun entry => hits entry.2 i).map (·.1) ∧
        ∀ entry ∈ entries, entry.1 ∈ tab.steps.getD i [] ↔ hits entry.2 i = true := by
  have hdrums : ∀ entry ∈ entries, isDrumName entry.1 = true := fun entry hentry =>
    isDrumName_of_flaw?_eq_none hvalid entry.1 (hchosen entry hentry)
  have hknown : ∀ entry ∈ entries, knows entry.1 = true := fun entry hentry =>
    (hknows entry.1).mpr (hchosen entry hentry)
  -- a text with a name that breaks its line is not accepted
  have hfree : ∀ tab, ofBytes knows (written entries) = .ok tab →
      ∀ entry ∈ entries, lineFeed ∉ Text.Utf8.encode entry.1 := by
    intro tab htab entry hentry hbreak
    obtain ⟨-, -, haccepted, -⟩ := (ofBytes_eq_ok_iff _ _ _).mp htab
    obtain ⟨line, hline, hill⟩ :=
      exists_not_wellFormed_of_lineFeed hentry (hdrums entry hentry) hbreak
    exact hill (haccepted.wellFormed line hline)
  refine ⟨⟨?_, ?_⟩, ?_⟩
  · rintro ⟨tab, htab⟩ entry hentry hmem
    exact hfree tab htab entry hentry (lineFeed_mem_encode_iff.mpr hmem)
  · intro hnames
    obtain ⟨tab, htab, -⟩ := ofBytes_written_eq_ok hne hnodup hdrums hknown hpatterns
      fun entry hentry hmem => hnames entry hentry (lineFeed_mem_encode_iff.mp hmem)
    exact ⟨tab, htab⟩
  · intro tab htab
    obtain ⟨tab', htab', hlist, hsteps⟩ :=
      ofBytes_written_eq_ok hne hnodup hdrums hknown hpatterns (hfree tab htab)
    obtain rfl : tab = tab' := Except.ok.inj (htab.symm.trans htab')
    refine ⟨hlist, fun i => ⟨hsteps i, fun entry hentry => ?_⟩⟩
    rw [hsteps i, List.mem_map]
    constructor
    · rintro ⟨other, hother, hsame⟩
      -- names are distinct, so the drum that is hit is this one
      have hmem := List.mem_of_mem_filter hother
      obtain rfl := List.inj_on_of_nodup_map hnodup hmem hentry hsame
      exact (List.mem_filter.mp hother).2
    · intro hhit
      exact ⟨entry, List.mem_filter.mpr ⟨hentry, hhit⟩, rfl⟩

/-- Settings with three drums of odd names. -/
def oddDrums : AcousticSettings where
  samplesDir := ""
  drums := .ofList [("||", "bar.wav"), ("\r-", "dash.wav"), ("A\n", "break.wav")]
  bufferMs := 1

/-- Drums that are named by bars, a carriage return and a minus sign. -/
theorem ofBytes_written_odd_drums :
    oddDrums.flaw? = none ∧
    ∃ tab, ofBytes oddDrums.drums.names.contains
        (written [("||", [0x7C, 0x0D, 0x2E]), ("\r-", [0x2D, 0x2D])]) = .ok tab ∧
      tab.drums = ["||", "\r-"] ∧ tab.steps.getD 1 [] = ["||"] := by
  have hvalid : oddDrums.flaw? = none := by decide
  have hpatterns : ∀ entry ∈ [("||", [0x7C, 0x0D, 0x2E]), ("\r-", [0x2D, 0x2D])],
      IsPattern entry.2 :=
    List.forall_mem_cons.mpr ⟨⟨by decide, by decide, by decide⟩,
      List.forall_mem_singleton.mpr ⟨by decide, by decide, by decide⟩⟩
  obtain ⟨haccepted, hread⟩ := ofBytes_written hvalid (fun _ => List.contains_iff_mem)
    (by decide) (by decide) (by decide) hpatterns
  obtain ⟨tab, htab⟩ := haccepted.mpr (by decide)
  obtain ⟨hdrums, hsteps⟩ := hread tab htab
  exact ⟨hvalid, tab, htab, hdrums, (hsteps 1).1.trans (by decide)⟩

/-- **Not every drum that settings let through can be written**: of two ASCII characters one may be
a line feed. -/
theorem not_ofBytes_written_of_lineFeed :
    oddDrums.flaw? = none ∧
    (∀ name, oddDrums.drums.names.contains name = true ↔ name ∈ oddDrums.drums.names) ∧
    (∀ entry ∈ [("A\n", [0x6F])], entry.1 ∈ oddDrums.drums.names ∧ IsPattern entry.2) ∧
    ofBytes oddDrums.drums.names.contains (written [("A\n", [0x6F])]) = .error (.badLine 1) := by
  refine ⟨by decide, fun _ => List.contains_iff_mem, ?_, by decide⟩
  exact List.forall_mem_singleton.mpr ⟨by decide, by decide, by decide, by decide⟩

end DrumMachine.Tablature
