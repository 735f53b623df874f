import DrumMachine.Proofs.Stream.Reading
import DrumMachine.Proofs.Tablature.Acceptance

/-! # The line that a text is refused for

A line offends if it is not well formed, names a drum that the kit does not know, or names one that
an earlier line named (`Offends`). A text that is not empty is refused exactly if a line of it
offends. The first such line decides the error alone, by the first of the three tests that it fails
(`Flaw`), and nothing that follows it plays a part (`ofBytes_refuses`).

The lines before the first one that offends are accepted ones, which is what the checks know of them
when they come to it (`firstOffence_iff`, `checkLines_eq_error_iff`). -/

namespace DrumMachine.Tablature

/-! ## Lines that offend -/

/-- **Line `i` of a text offends**, counted from zero: it is not well formed, or the kit does not
know its drum, or an earlier line has the same drum. -/
def Offends (knows : String → Bool) (texts : List (List UInt8)) (i : Nat) : Prop :=
  ∃ text, texts[i]? = some text ∧
    (¬ WellFormed text ∨ knows (nameOf text) = false ∨ nameOf text ∈ (texts.take i).map nameOf)

/-- **What is wrong with line `i` of a text**: the error of the first test that it fails. An error
counts lines from one. -/
inductive Flaw (knows : String → Bool) (texts : List (List UInt8)) (i : Nat) : ReadError → Prop
  /-- Its form comes first. -/
  | badLine {text : List UInt8} (getElem?_eq : texts[i]? = some text) (ill : ¬ WellFormed text) :
      Flaw knows texts i (.badLine (i + 1))
  /-- Then whether the kit knows its drum. -/
  | unknownDrum {text : List UInt8} (getElem?_eq : texts[i]? = some text)
      (wellFormed : WellFormed text) (unknown : knows (nameOf text) = false) :
      Flaw knows texts i (.unknownDrum (nameOf text))
  /-- Then whether its drum is new. -/
  | duplicateDrum {text : List UInt8} (getElem?_eq : texts[i]? = some text)
      (wellFormed : WellFormed text) (known : knows (nameOf text) = true)
      (mem : nameOf text ∈ (texts.take i).map nameOf) :
      Flaw knows texts i (.duplicateDrum (i + 1) (nameOf text))

/-- **Line `i` is the first that offends**, and `e` is what is wrong with it. -/
structure FirstOffence (knows : String → Bool) (texts : List (List UInt8)) (i : Nat)
    (e : ReadError) : Prop where
  isLeast : IsLeast {n | Offends knows texts n} i
  flaw : Flaw knows texts i e

section Offends

variable {knows : String → Bool} {texts : List (List UInt8)} {i : Nat} {e : ReadError}

/-- A flaw is in one of the lines. -/
theorem Flaw.lt_length (h : Flaw knows texts i e) : i < texts.length := by
  cases h with
  | badLine hget => exact (List.getElem?_eq_some_iff.mp hget).1
  | unknownDrum hget => exact (List.getElem?_eq_some_iff.mp hget).1
  | duplicateDrum hget => exact (List.getElem?_eq_some_iff.mp hget).1

/-- A line with a flaw offends. -/
theorem Flaw.offends (h : Flaw knows texts i e) : Offends knows texts i := by
  cases h with
  | badLine hget hill => exact ⟨_, hget, .inl hill⟩
  | unknownDrum hget _ hunknown => exact ⟨_, hget, .inr (.inl hunknown)⟩
  | duplicateDrum hget _ _ hmem => exact ⟨_, hget, .inr (.inr hmem)⟩

/-- The flaw of a line is never that the text is empty. -/
theorem Flaw.ne_empty (h : Flaw knows texts i e) : e ≠ .empty := by
  cases h <;> exact ReadError.noConfusion

/-- Whatever follows a line, it offends or not. -/
theorem offends_append_iff (h : i < texts.length) (more : List (List UInt8)) :
    Offends knows (texts ++ more) i ↔ Offends knows texts i := by
  rw [Offends, Offends, List.getElem?_append_left h, List.take_append_of_le_length h.le]

/-- Later lines change nothing about the flaw of a line. -/
theorem flaw_append_iff (h : i < texts.length) (more : List (List UInt8)) :
    Flaw knows (texts ++ more) i e ↔ Flaw knows texts i e := by
  have hget : (texts ++ more)[i]? = texts[i]? := List.getElem?_append_left h
  have htake : (texts ++ more).take i = texts.take i := List.take_append_of_le_length h.le
  constructor
  · rintro (⟨hat, hill⟩ | ⟨hat, hwell, hunknown⟩ | ⟨hat, hwell, hknown, hmem⟩)
    · exact .badLine (hget ▸ hat) hill
    · exact .unknownDrum (hget ▸ hat) hwell hunknown
    · exact .duplicateDrum (hget ▸ hat) hwell hknown (htake ▸ hmem)
  · rintro (⟨hat, hill⟩ | ⟨hat, hwell, hunknown⟩ | ⟨hat, hwell, hknown, hmem⟩)
    · exact .badLine (hget.trans hat) hill
    · exact .unknownDrum (hget.trans hat) hwell hunknown
    · exact .duplicateDrum (hget.trans hat) hwell hknown (htake.symm ▸ hmem)

/-- **A kit accepts the lines of a text exactly if none of them offends.** -/
theorem accepted_iff_forall_not_offends (knows : String → Bool) (texts : List (List UInt8)) :
    Accepted knows texts ↔ ∀ i, ¬ Offends knows texts i := by
  constructor
  · rintro haccepted i ⟨text, hget, hill | hunknown | hmem⟩
    · exact hill (haccepted.wellFormed text (List.mem_of_getElem? hget))
    · have hknown := haccepted.known text (List.mem_of_getElem? hget)
      rw [hunknown] at hknown
      cases hknown
    · obtain ⟨hi, rfl⟩ := List.getElem?_eq_some_iff.mp hget
      have hnodup := haccepted.nodup
      rw [← List.take_append_drop i texts, List.drop_eq_getElem_cons hi, List.map_append,
        List.nodup_append] at hnodup
      exact hnodup.2.2 _ hmem _ (List.mem_map_of_mem List.mem_cons_self) rfl
  · intro hnone
    refine ⟨?_, ?_, ?_⟩
    · intro text htext
      obtain ⟨i, hget⟩ := List.mem_iff_getElem?.mp htext
      by_contra hill
      exact hnone i ⟨text, hget, .inl hill⟩
    · intro text htext
      obtain ⟨i, hget⟩ := List.mem_iff_getElem?.mp htext
      by_contra hunknown
      exact hnone i ⟨text, hget, .inr (.inl (Bool.eq_false_iff.mpr hunknown))⟩
    · rw [List.Nodup, List.pairwise_iff_getElem]
      intro i j hi hj hij hname
      rw [List.length_map] at hi hj
      rw [List.getElem_map, List.getElem_map] at hname
      -- of two lines with the same drum the later one offends
      refine hnone j ⟨texts[j], List.getElem?_eq_getElem hj, .inr (.inr ?_)⟩
      rw [← hname, List.mem_map]
      exact ⟨texts[i], List.mem_take_iff_getElem.mpr ⟨i, by omega, rfl⟩, rfl⟩

/-- **A line is the first that offends** exactly if the lines before it are accepted. -/
theorem firstOffence_iff :
    FirstOffence knows texts i e ↔ Flaw knows texts i e ∧ Accepted knows (texts.take i) := by
  rw [accepted_iff_forall_not_offends]
  -- up to line `i` a text is what its first `i` lines are
  have hbefore : ∀ n < i, i ≤ texts.length →
      (Offends knows texts n ↔ Offends knows (texts.take i) n) := by
    intro n hn hi
    have hlength : n < (texts.take i).length := by
      rw [List.length_take]
      omega
    rw [← offends_append_iff hlength (texts.drop i), List.take_append_drop]
  constructor
  · rintro ⟨hleast, hflaw⟩
    refine ⟨hflaw, fun n hoffends => ?_⟩
    have hn : n < i := by
      obtain ⟨text, hget, -⟩ := hoffends
      have hlt := (List.getElem?_eq_some_iff.mp hget).1
      rw [List.length_take] at hlt
      omega
    have hle := hleast.2 ((hbefore n hn hflaw.lt_length.le).mpr hoffends)
    omega
  · rintro ⟨hflaw, hnone⟩
    refine ⟨⟨hflaw.offends, fun n hoffends => ?_⟩, hflaw⟩
    by_contra hlt
    rw [Nat.not_le] at hlt
    exact hnone n ((hbefore n hlt hflaw.lt_length.le).mp hoffends)

/-- **Nothing after the first line that offends plays a part.** -/
theorem firstOffence_append_iff (h : i < texts.length) (more : List (List UInt8)) :
    FirstOffence knows (texts ++ more) i e ↔ FirstOffence knows texts i e := by
  rw [firstOffence_iff, firstOffence_iff, flaw_append_iff h, List.take_append_of_le_length h.le]

end Offends

/-! ## The checks -/

/-- **What a line is refused for**, after lines that were accepted. -/
theorem checkLine_eq_error_iff (knows : String → Bool) (accepted : List Line) (number : Nat)
    (bytes : List UInt8) (e : ReadError) :
    checkLine knows accepted number bytes = .error e ↔
      ¬ WellFormed (Line.trim bytes) ∧ .badLine number = e ∨
      WellFormed (Line.trim bytes) ∧
        (knows (nameOf (Line.trim bytes)) = false ∧ .unknownDrum (nameOf (Line.trim bytes)) = e ∨
          knows (nameOf (Line.trim bytes)) = true ∧
            nameOf (Line.trim bytes) ∈ accepted.map (·.name) ∧
            .duplicateDrum number (nameOf (Line.trim bytes)) = e) := by
  rw [checkLine]
  cases hread : Line.ofBytes? (Line.trim bytes) with
  | none =>
    have hill := (ofBytes?_eq_none_iff _).mp hread
    simp [hill]
  | some line =>
    obtain ⟨hwell, hname, -⟩ := (ofBytes?_eq_some_iff _ _).mp hread
    simp only [hwell, hname, not_true_eq_false, false_and, true_and, false_or]
    cases knows (nameOf (Line.trim bytes)) with
    | false => simp
    | true =>
      rw [List.mem_map]
      by_cases hduplicate : ∃ old ∈ accepted, old.name = nameOf (Line.trim bytes)
      · simp [hduplicate]
      · simp [hduplicate]

/-- **The lines before the one that is refused are accepted**, and it is refused after these. -/
theorem checkLines_eq_error_iff (knows : String → Bool) (accepted : List Line) (number : Nat)
    (texts : List (List UInt8)) (e : ReadError) :
    checkLines knows accepted number texts = .error e ↔
      ∃ before text after lines, texts = before ++ text :: after ∧
        checkLines knows accepted number before = .ok lines ∧
        checkLine knows lines (number + before.length) text = .error e := by
  induction texts generalizing accepted number with
  | nil => simp
  | cons first rest ih =>
    rw [checkLines_cons]
    constructor
    · intro herror
      cases hfirst : checkLine knows accepted number first with
      | error e' =>
        -- the first line is the one that is refused
        rw [hfirst] at herror
        cases herror
        exact ⟨[], first, rest, accepted, rfl, rfl, hfirst⟩
      | ok line =>
        rw [hfirst] at herror
        obtain ⟨before, text, after, lines, rfl, hbefore, htext⟩ := (ih _ _).mp herror
        refine ⟨first :: before, text, after, lines, rfl, ?_, ?_⟩
        · rw [checkLines_cons, hfirst]
          exact hbefore
        · rwa [List.length_cons, Nat.add_comm before.length, ← Nat.add_assoc]
    · rintro ⟨_ | ⟨first', before⟩, text, after, lines, hsplit, hbefore, htext⟩
      · obtain ⟨rfl, rfl⟩ := List.cons.inj hsplit
        cases hbefore
        rw [List.length_nil, Nat.add_zero] at htext
        rw [htext]
      · obtain ⟨rfl, rfl⟩ := List.cons.inj hsplit
        rw [checkLines_cons] at hbefore
        cases hfirst : checkLine knows accepted number first with
        | error e' =>
          rw [hfirst] at hbefore
          cases hbefore
        | ok line =>
          rw [hfirst] at hbefore
          refine (ih _ _).mpr ⟨before, text, after, lines, rfl, hbefore, ?_⟩
          rwa [List.length_cons, Nat.add_comm before.length, ← Nat.add_assoc] at htext

/-- **Lines are refused for the first of them that offends.** -/
theorem checkLines_nil_eq_error_iff (knows : String → Bool) (texts : List (List UInt8))
    (e : ReadError) :
    checkLines knows [] 1 texts = .error e ↔
      ∃ i, FirstOffence knows (texts.map Line.trim) i e := by
  simp only [checkLines_eq_error_iff, checkLine_eq_error_iff, checkLines_nil_eq_ok_iff,
    firstOffence_iff]
  constructor
  · rintro ⟨before, text, after, lines, rfl, ⟨hlines, haccepted⟩, hflaw⟩
    have hget : ((before ++ text :: after).map Line.trim)[before.length]? =
        some (Line.trim text) := by simp
    have htake : ((before ++ text :: after).map Line.trim).take before.length =
        before.map Line.trim := by simp
    refine ⟨before.length, ?_, htake.symm ▸ haccepted⟩
    rw [map_name_of_describes hlines, ← htake, Nat.add_comm] at hflaw
    obtain ⟨hill, rfl⟩ | ⟨hwell, ⟨hunknown, rfl⟩ | ⟨hknown, hmem, rfl⟩⟩ := hflaw
    · exact .badLine hget hill
    · exact .unknownDrum hget hwell hunknown
    · exact .duplicateDrum hget hwell hknown hmem
  · rintro ⟨i, hflaw, haccepted⟩
    have hi : i < texts.length := by simpa using hflaw.lt_length
    obtain ⟨lines, hlines⟩ := exists_describes haccepted.wellFormed
    have hnames := map_name_of_describes hlines
    rw [← List.map_take] at hlines haccepted
    -- the checks come to line `i` with the lines before it, all of them accepted
    refine ⟨texts.take i, texts[i], texts.drop (i + 1), lines, ?_, ⟨hlines, haccepted⟩, ?_⟩
    · rw [← List.drop_eq_getElem_cons hi, List.take_append_drop]
    · have hnumber : 1 + (texts.take i).length = i + 1 := by
        rw [List.length_take]
        omega
      rw [hnumber, hnames]
      have hget : ∀ {text}, (texts.map Line.trim)[i]? = some text → text = Line.trim texts[i] := by
        intro text htext
        simpa [hi, eq_comm] using htext
      cases hflaw with
      | badLine hat hill =>
        obtain rfl := hget hat
        exact .inl ⟨hill, rfl⟩
      | unknownDrum hat hwell hunknown =>
        obtain rfl := hget hat
        exact .inr ⟨hwell, .inl ⟨hunknown, rfl⟩⟩
      | duplicateDrum hat hwell hknown hmem =>
        obtain rfl := hget hat
        exact .inr ⟨hwell, .inr ⟨hknown, hmem, rfl⟩⟩

/-! ## Texts -/

/-- The lines that a text has complete are lines of it, whatever follows. -/
theorem exists_textLines_append (front rest : List UInt8) :
    ∃ more, textLines (front ++ rest) = (cutLines front).1.map withoutReturn ++ more := by
  rw [textLines, untrimmedLines_eq, cutLines_pieces, List.append_assoc, List.map_append]
  exact ⟨_, rfl⟩

/-- There are no lines to make a tablature of exactly if the text is empty. -/
theorem ofLines_eq_error_iff (lines : List Line) (e : ReadError) :
    ofLines lines = .error e ↔ lines = [] ∧ e = .empty := by
  rw [ofLines]
  by_cases hlines : lines = []
  · simp [hlines, width, eq_comm]
  · simp [hlines, (width_pos hlines).ne']

/-- **A text is refused** for being empty, or for the first line that offends. -/
theorem ofBytes_eq_error_iff (knows : String → Bool) (bytes : List UInt8) (e : ReadError) :
    ofBytes knows bytes = .error e ↔
      bytes = [] ∧ e = .empty ∨ ∃ i, FirstOffence knows (textLines bytes) i e := by
  have hoffence := checkLines_nil_eq_error_iff knows (untrimmedLines bytes) e
  rw [trim_eq_withoutReturn, ← textLines] at hoffence
  rw [← hoffence, ofBytes, read, lines_ofBytes]
  cases hcheck : checkLines knows [] 1 (untrimmedLines bytes) with
  | error e' =>
    have hne : bytes ≠ [] := by
      rintro rfl
      rw [untrimmedLines_nil] at hcheck
      cases hcheck
    simp [hne]
  | ok lines =>
    -- lines that pass their checks are only refused if there are none
    obtain ⟨hlines, -⟩ := (checkLines_nil_eq_ok_iff _ _ _ _).mp hcheck
    rw [trim_eq_withoutReturn, ← textLines] at hlines
    simp [ofLines_eq_error_iff, eq_nil_iff_of_describes hlines]

/-- **What a text is refused for.** An empty text has an error of its own, which no other text has.
Any other text is refused exactly if a line of it offends, and for the first line that does, by the
first test that this line fails. All texts that agree up to the line feed of this line are refused
for the same. -/
theorem ofBytes_refuses (knows : String → Bool) (bytes : List UInt8) :
    (∀ e, ofBytes knows bytes = .error e ↔
      bytes = [] ∧ e = .empty ∨ ∃ i, FirstOffence knows (textLines bytes) i e) ∧
    (ofBytes knows bytes = .error .empty ↔ bytes = []) ∧
    ∀ i e, FirstOffence knows (textLines bytes) i e →
      ∀ front, front <+: bytes → i < front.count lineFeed →
        ∀ rest, ofBytes knows (front ++ rest) = .error e := by
  refine ⟨ofBytes_eq_error_iff knows bytes, ?_, ?_⟩
  · rw [ofBytes_eq_error_iff]
    constructor
    · rintro (⟨hnil, -⟩ | ⟨i, hfirst⟩)
      · exact hnil
      · exact absurd rfl hfirst.flaw.ne_empty
    · intro hnil
      exact .inl ⟨hnil, rfl⟩
  · rintro i e hfirst front ⟨after, rfl⟩ hi rest
    rw [← length_cutLines_fst, ← List.length_map withoutReturn] at hi
    -- whatever comes behind `front`, the lines up to the first that offends are the same
    obtain ⟨more, hmore⟩ := exists_textLines_append front after
    obtain ⟨more', hmore'⟩ := exists_textLines_append front rest
    rw [hmore, firstOffence_append_iff hi] at hfirst
    rw [ofBytes_eq_error_iff, hmore']
    exact .inr ⟨i, (firstOffence_append_iff hi more').mpr hfirst⟩

/-- A drum that comes twice, whatever is in the line behind it. -/
theorem ofBytes_refuses_second_line :
    FirstOffence (· != "ZZ") (textLines (Text.Utf8.encode "HH|o\r\nHH|.\nbad")) 1
      (.duplicateDrum 2 "HH") ∧
    ofBytes (· != "ZZ") (Text.Utf8.encode "HH|o\r\nHH|.\nbad") = .error (.duplicateDrum 2 "HH") ∧
    ofBytes (· != "ZZ") (Text.Utf8.encode "HH|o\r\nHH|.\nZZ|x") =
      .error (.duplicateDrum 2 "HH") := by
  have hfirst : FirstOffence (· != "ZZ") (textLines (Text.Utf8.encode "HH|o\r\nHH|.\nbad")) 1
      (.duplicateDrum 2 "HH") := by
    have hget : (textLines (Text.Utf8.encode "HH|o\r\nHH|.\nbad"))[1]? =
        some (Text.Utf8.encode "HH|.") := by decide
    have htake : (textLines (Text.Utf8.encode "HH|o\r\nHH|.\nbad")).take 1 =
        [Text.Utf8.encode "HH|o"] := by decide
    refine firstOffence_iff.mpr ⟨?_, ?_⟩
    · exact .duplicateDrum hget ⟨by decide, by decide⟩ (by decide) (by decide)
    · rw [htake]
      refine ⟨?_, ?_, by decide⟩
      · exact List.forall_mem_singleton.mpr ⟨by decide, by decide⟩
      · exact List.forall_mem_singleton.mpr (by decide)
  obtain ⟨herror, -, hrest⟩ :=
    ofBytes_refuses (· != "ZZ") (Text.Utf8.encode "HH|o\r\nHH|.\nbad")
  exact ⟨hfirst, (herror _).mpr (.inr ⟨1, hfirst⟩),
    hrest 1 _ hfirst (Text.Utf8.encode "HH|o\r\nHH|.\n") (by decide) (by decide)
      (Text.Utf8.encode "ZZ|x")⟩

end DrumMachine.Tablature
