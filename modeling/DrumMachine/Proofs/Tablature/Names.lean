import DrumMachine.Kit.Basic
import DrumMachine.Proofs.Tablature.Offences
import DrumMachine.Proofs.Text.Replacement

/-! # Lines of the same drum

A line is refused if an earlier one has the same drum. What is compared are texts, each read from
the two bytes of a name, and bytes that are no text are read as replacement characters. So two lines
may be taken for lines of the same drum although their bytes differ
(`not_repeats_take_of_duplicateDrum`).

It takes a replacement character for this to happen. A text without one is read from one pair of
bytes only, so that a line is refused for its two bytes wherever the kit knows no drum with a
replacement character in its name (`repeats_of_duplicateDrum`). -/

namespace DrumMachine.Tablature

/-- **Line `number` repeats an earlier line** in a part of it. Lines are counted from one. -/
def Repeats {α : Type} (part : List UInt8 → α) (texts : List (List UInt8)) (number : Nat) : Prop :=
  ∃ i line, number = i + 1 ∧ texts[i]? = some line ∧ ∃ earlier ∈ texts.take i,
    part earlier = part line

/-- A well-formed line starts with the two bytes of its name. -/
theorem exists_take_two_of_wellFormed {line : List UInt8} (h : WellFormed line) :
    ∃ a b, line.take 2 = [a, b] := by
  refine List.length_eq_two.mp ?_
  rw [List.length_take]
  exact Nat.min_eq_left (by have := h.1; omega)

/-- Lines of the same drum begin with the same two bytes, unless these were not all read as they
are. -/
theorem take_two_eq_of_nameOf_eq {line line' : List UInt8} (h : WellFormed line)
    (h' : WellFormed line') (hname : nameOf line = nameOf line')
    (hplain : '\uFFFD' ∉ (nameOf line).toList) : line.take 2 = line'.take 2 := by
  obtain ⟨a, b, hab⟩ := exists_take_two_of_wellFormed h
  obtain ⟨c, d, hcd⟩ := exists_take_two_of_wellFormed h'
  rw [nameOf, hab] at hname hplain
  rw [nameOf, hcd] at hname
  obtain ⟨rfl, rfl⟩ := Text.Utf8.eq_of_decodeLossy_eq hname hplain
  rw [hab, hcd]

/-- **What a line is refused for as one of the same drum**: its drum is known, and an accepted line
before it has the same one. -/
theorem exists_of_duplicateDrum {knows : String → Bool} {bytes : List UInt8} {number : Nat}
    {name : String} (h : ofBytes knows bytes = .error (.duplicateDrum number name)) :
    ∃ i line, number = i + 1 ∧ name = nameOf line ∧ (textLines bytes)[i]? = some line ∧
      WellFormed line ∧ knows name = true ∧ ∃ earlier ∈ (textLines bytes).take i,
        WellFormed earlier ∧ nameOf earlier = nameOf line := by
  obtain ⟨-, hempty⟩ | ⟨i, hfirst⟩ := (ofBytes_eq_error_iff _ _ _).mp h
  · cases hempty
  · obtain ⟨hflaw, haccepted⟩ := firstOffence_iff.mp hfirst
    cases hflaw with
    | duplicateDrum hline hwell hknown hmem =>
      -- the lines before it are accepted ones, so their names are two bytes each as well
      obtain ⟨earlier, hearlier, hname⟩ := List.mem_map.mp hmem
      exact ⟨i, _, rfl, rfl, hline, hwell, hknown, earlier, hearlier,
        haccepted.wellFormed earlier hearlier, hname⟩

/-- **A line that is refused as one of the same drum** has the name of an earlier line. It begins
with the same two bytes as that, or there is a replacement character in the name; so it does begin
with the same two bytes if the kit knows no drum with such a character in its name. -/
theorem repeats_of_duplicateDrum {knows : String → Bool} {bytes : List UInt8} {number : Nat}
    {name : String} (h : ofBytes knows bytes = .error (.duplicateDrum number name)) :
    Repeats nameOf (textLines bytes) number ∧
    (Repeats (List.take 2) (textLines bytes) number ∨ '\uFFFD' ∈ name.toList) ∧
    ((∀ drum, knows drum = true → '\uFFFD' ∉ drum.toList) →
      Repeats (List.take 2) (textLines bytes) number) := by
  obtain ⟨i, line, rfl, rfl, hline, hwell, hknown, earlier, hearlier, hwellEarlier, hname⟩ :=
    exists_of_duplicateDrum h
  have hplain : '\uFFFD' ∉ (nameOf line).toList →
      Repeats (List.take 2) (textLines bytes) (i + 1) := by
    intro hplain
    rw [← hname] at hplain
    exact ⟨i, line, rfl, hline, earlier, hearlier,
      take_two_eq_of_nameOf_eq hwellEarlier hwell hname hplain⟩
  refine ⟨⟨i, line, rfl, hline, earlier, hearlier, hname⟩, ?_, fun hkit => hplain (hkit _ hknown)⟩
  by_cases hmem : '\uFFFD' ∈ (nameOf line).toList
  · exact .inr hmem
  · exact .inl (hplain hmem)

/-- The printing kit knows no drum with a replacement character in its name. -/
theorem repeats_of_duplicateDrum_printing :
    ofBytes Kit.printing.knows (Text.Utf8.encode "HH|o\nSD|x\r\nHH|..o") =
      .error (.duplicateDrum 3 "HH") ∧
    (∀ drum, Kit.printing.knows drum = true → '\uFFFD' ∉ drum.toList) ∧
    Repeats (List.take 2) (textLines (Text.Utf8.encode "HH|o\nSD|x\r\nHH|..o")) 3 := by
  have hread : ofBytes Kit.printing.knows (Text.Utf8.encode "HH|o\nSD|x\r\nHH|..o") =
      .error (.duplicateDrum 3 "HH") := by decide
  have hkit : ∀ drum, Kit.printing.knows drum = true → '\uFFFD' ∉ drum.toList := by
    have hdrums : ∀ drum ∈ Printing.drums, '\uFFFD' ∉ drum.toList := by decide
    intro drum hdrum
    exact hdrums drum (List.contains_iff_mem.mp hdrum)
  exact ⟨hread, hkit, (repeats_of_duplicateDrum hread).2.2 hkit⟩

/-- **Two drums may be taken for one.** Read byte by byte, the lines are those of two drums; but
neither of their first bytes is a character, so both names are a replacement character and an A. -/
theorem not_repeats_take_of_duplicateDrum :
    ¬ ∀ (knows : String → Bool) (bytes : List UInt8) (number : Nat) (name : String),
      ofBytes knows bytes = .error (.duplicateDrum number name) →
        Repeats (List.take 2) (textLines bytes) number := by
  intro h
  have hread : ofBytes (fun _ => true)
      [0xE9, 0x41, 0x7C, 0x6F, 0x0A, 0xE8, 0x41, 0x7C, 0x6F, 0x0A] =
        .error (.duplicateDrum 2 "\uFFFDA") := by decide
  obtain ⟨i, line, hnumber, hline, earlier, hearlier, hsame⟩ := h _ _ _ _ hread
  obtain rfl : i = 1 := by omega
  have hlines : textLines [0xE9, 0x41, 0x7C, 0x6F, 0x0A, 0xE8, 0x41, 0x7C, 0x6F, 0x0A] =
      [[0xE9, 0x41, 0x7C, 0x6F], [0xE8, 0x41, 0x7C, 0x6F]] := by decide
  rw [hlines] at hline hearlier
  obtain rfl : _ = line := by simpa using hline
  obtain rfl : earlier = _ := by simpa using hearlier
  exact absurd hsame (by decide)

end DrumMachine.Tablature
