import DrumMachine.Proofs.Tablature.Offences

/-! # Reading a tablature from a source

How a source splits a text into deliveries, and how often it is interrupted, makes no difference: a
source that comes to its end is read like the text in one piece (`read_eq_ofBytes`).

A source that fails has only the lines that were complete by then. If one of them offends, that is
what the reader reports, and otherwise it reports the fault (`read_eq_error_iff_of_fault`); the
unfinished line is not looked at. -/

namespace DrumMachine.Tablature

/-- The lines of the complete part of a text are those ended by a line feed. -/
theorem textLines_completePart (bytes : List UInt8) :
    textLines (completePart bytes) = (cutLines bytes).1.map withoutReturn := by
  rw [textLines, untrimmedLines_eq, cutLines_completePart, if_pos rfl, List.append_nil]

section Sources

variable {knows : String → Bool} {source : Source}

/-- **A source that comes to its end is read like a text in one piece.** -/
theorem read_eq_ofBytes (h : source.fault? = none) :
    read knows source = ofBytes knows source.delivered := by
  rw [ofBytes, read, read, lines_ofBytes, Source.lines_of_fault?_eq_none h, untrimmedLines_eq]

/-- **What is reported of a source that fails**: the first complete line that offends, or else the
fault. -/
theorem read_eq_error_iff_of_fault {fault : Fault} (h : source.fault? = some fault)
    (e : ReadError) :
    read knows source = .error e ↔
      (∃ i, FirstOffence knows (textLines (completePart source.delivered)) i e) ∨
        (∀ i, ¬ Offends knows (textLines (completePart source.delivered)) i) ∧
          e = .unreadable fault := by
  have hlines := textLines_completePart source.delivered
  rw [← trim_eq_withoutReturn] at hlines
  have hoffence := checkLines_nil_eq_error_iff knows (cutLines source.delivered).1 e
  rw [← accepted_iff_forall_not_offends, hlines, ← hoffence, read,
    Source.lines_of_fault?_eq_some h]
  cases hcheck : checkLines knows [] 1 (cutLines source.delivered).1 with
  | error e' =>
    have hrefused : ¬ Accepted knows ((cutLines source.delivered).1.map Line.trim) := by
      intro haccepted
      obtain ⟨lines, hdescribes⟩ := exists_describes haccepted.wellFormed
      rw [(checkLines_nil_eq_ok_iff knows 1 _ lines).mpr ⟨hdescribes, haccepted⟩] at hcheck
      cases hcheck
    simp [hrefused]
  | ok lines =>
    have haccepted := ((checkLines_nil_eq_ok_iff knows 1 _ lines).mp hcheck).2
    simp [haccepted, eq_comm]

/-- A source that fails gives no tablature. -/
theorem read_ne_ok_of_fault {fault : Fault} (h : source.fault? = some fault) (tab : Tablature) :
    read knows source ≠ .ok tab := by
  intro hread
  have hnone := ((read_eq_ok_iff knows source tab).mp hread).1
  rw [Source.lines_of_fault?_eq_some h] at hnone
  cases hnone

end Sources

/-- Sources that fail alike with the same complete lines are read alike. -/
theorem read_congr_of_fault (knows : String → Bool) {source source' : Source}
    (hfault : source'.fault? = source.fault?) {fault : Fault} (h : source.fault? = some fault)
    (hlines : (cutLines source'.delivered).1 = (cutLines source.delivered).1) :
    read knows source' = read knows source := by
  rw [read, read, Source.lines_of_fault?_eq_some h, Source.lines_of_fault?_eq_some (hfault.trans h),
    hlines]

/-- **What is read from a source.** One that comes to its end is read like its text in one piece.
One that fails never gives a tablature nor passes for an empty text: the first of its complete lines
that offends is reported, and if none does the fault is, whatever it has delivered of one more
line. -/
theorem read_source (knows : String → Bool) (source : Source) :
    (source.fault? = none → read knows source = ofBytes knows source.delivered) ∧
    ∀ fault, source.fault? = some fault →
      (∀ e, read knows source = .error e ↔
        (∃ i, FirstOffence knows (textLines (completePart source.delivered)) i e) ∨
          (∀ i, ¬ Offends knows (textLines (completePart source.delivered)) i) ∧
            e = .unreadable fault) ∧
      (∀ tab, read knows source ≠ .ok tab) ∧
      read knows source ≠ .error .empty ∧
      ∀ (rest : List UInt8) (source' : Source), lineFeed ∉ rest →
        source'.delivered = completePart source.delivered ++ rest →
        source'.fault? = some fault → read knows source' = read knows source := by
  refine ⟨read_eq_ofBytes, fun fault hfault => ⟨read_eq_error_iff_of_fault hfault,
    read_ne_ok_of_fault hfault, ?_, ?_⟩⟩
  · rw [ne_eq, read_eq_error_iff_of_fault hfault]
    rintro (⟨i, hfirst⟩ | ⟨-, hempty⟩)
    · exact hfirst.flaw.ne_empty rfl
    · cases hempty
  · intro rest source' hrest hdelivered hfault'
    refine read_congr_of_fault knows (hfault'.trans hfault.symm) hfault ?_
    rw [hdelivered, cutLines_pieces, cutLines_completePart, List.nil_append,
      cutLines_of_notMem hrest, List.append_nil]

/-- A text in pieces, one that fails in its last line and one that fails behind it. -/
theorem read_source_in_pieces :
    read (fun _ => true)
        (Source.ofBytes (Text.Utf8.encode "H") ++ [.interrupted, .interrupted] ++
          Source.ofBytes (Text.Utf8.encode "H|o\r") ++ Source.ofBytes (Text.Utf8.encode "\nBD|x")) =
      .ok ⟨["HH", "BD"], [["HH", "BD"]], by decide⟩ ∧
    read (fun _ => true)
        (Source.ofBytes (Text.Utf8.encode "HH|o\nHH|") ++ [.interrupted, .failed .isDirectory]) =
      .error (.unreadable .isDirectory) ∧
    read (fun _ => true)
        (Source.ofBytes (Text.Utf8.encode "HH|o\nbad") ++ [.failed .isDirectory]) =
      .error (.unreadable .isDirectory) := by
  obtain ⟨hall, -⟩ := read_source (fun _ => true)
    (Source.ofBytes (Text.Utf8.encode "H") ++ [.interrupted, .interrupted] ++
      Source.ofBytes (Text.Utf8.encode "H|o\r") ++ Source.ofBytes (Text.Utf8.encode "\nBD|x"))
  obtain ⟨hreported, -, -, hrest⟩ := (read_source (fun _ => true)
    (Source.ofBytes (Text.Utf8.encode "HH|o\nHH|") ++ [.interrupted, .failed .isDirectory])).2
      .isDirectory rfl
  have haccepted : Accepted (fun _ => true)
      (textLines (completePart (Text.Utf8.encode "HH|o\nHH|"))) := by
    have hlines : textLines (completePart (Text.Utf8.encode "HH|o\nHH|")) =
        [Text.Utf8.encode "HH|o"] := by decide
    rw [hlines]
    exact ⟨List.forall_mem_singleton.mpr ⟨by decide, by decide⟩, fun _ _ => rfl, by decide⟩
  have hfault := (hreported (.unreadable .isDirectory)).mpr
    (.inr ⟨(accepted_iff_forall_not_offends _ _).mp haccepted, rfl⟩)
  refine ⟨(hall rfl).trans (by decide), hfault, ?_⟩
  exact (hrest (Text.Utf8.encode "bad") _ (by decide) (by decide) rfl).trans hfault

end DrumMachine.Tablature
