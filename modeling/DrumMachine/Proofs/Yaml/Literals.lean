import DrumMachine.Proofs.Yaml.Places
import DrumMachine.Yaml.Block
import Mathlib.Data.List.Basic

/-! # Literal block scalars that are read back

While the lines of a literal block scalar are read, no character is lost: the text up to the last
line, its break and the breaks behind it hold all that was written so far
(`Lines.chomped_keep_add`). The header says which of these count at the end
(`Lines.chomped_written`), and the indentation is given where it cannot be measured; so the text is
read back (`Block.read?_written`). -/

namespace DrumMachine.Yaml

namespace Block

/-! ## Lines, character by character -/

namespace Lines

/-- No lines yet. -/
def fresh : Lines := ⟨[], [], [], false⟩

/-- The lines with one more character; `inLine` says that the last line has started. -/
def add (inLine : Bool) (c : Char) (lines : Lines) : Lines :=
  match inLine, isBreak c with
  | true, true => { lines with lastBreak := [c] }
  | true, false => { lines with text := c :: lines.text }
  | false, true => { lines with breaks := lines.breaks ++ [c] }
  | false, false => lines.start false c

/-- The lines with more characters. -/
def addAll : Lines → (inLine : Bool) → List Char → Lines
  | lines, _, [] => lines
  | lines, inLine, c :: text => (lines.add inLine c).addAll (!isBreak c) text

/-- Whether the last line has started and not ended. -/
def endsInLine : (inLine : Bool) → List Char → Bool
  | inLine, [] => inLine
  | _, c :: text => endsInLine (!isBreak c) text

/-- Within a line there are no breaks behind it. -/
def IsOpen (lines : Lines) : Prop := lines.lastBreak = [] ∧ lines.breaks = []

variable {inLine : Bool} {lines : Lines} {c : Char} {text more : List Char}

/-- Characters are added one part after the other. -/
theorem addAll_append : lines.addAll inLine (text ++ more) =
    (lines.addAll inLine text).addAll (endsInLine inLine text) more := by
  induction text generalizing inLine lines with
  | nil => rfl
  | cons c text ih => exact ih

/-- Whether a line has started depends on the last part only through where the first one ends. -/
theorem endsInLine_append :
    endsInLine inLine (text ++ more) = endsInLine (endsInLine inLine text) more := by
  induction text generalizing inLine with
  | nil => rfl
  | cons c text ih => exact ih

/-- **No character is lost.** -/
theorem chomped_keep_add (h : inLine → lines.IsOpen) :
    (lines.add inLine c).chomped .keep = lines.chomped .keep ++ [c] ∧
      (!isBreak c → (lines.add inLine c).IsOpen) := by
  unfold add
  cases inLine <;> cases hc : isBreak c
  · exact ⟨by simp [start, chomped], fun _ => ⟨rfl, rfl⟩⟩
  · exact ⟨by simp [chomped], nofun⟩
  · obtain ⟨hlast, hbreaks⟩ := h rfl
    exact ⟨by simp [chomped, hlast, hbreaks], fun _ => ⟨hlast, hbreaks⟩⟩
  · obtain ⟨hlast, hbreaks⟩ := h rfl
    exact ⟨by simp [chomped, hlast, hbreaks], nofun⟩

/-- **All characters are kept.** -/
theorem chomped_keep_addAll (h : inLine → lines.IsOpen) :
    (lines.addAll inLine text).chomped .keep = lines.chomped .keep ++ text ∧
      (endsInLine inLine text → (lines.addAll inLine text).IsOpen) := by
  induction text generalizing inLine lines with
  | nil => exact ⟨(List.append_nil _).symm, h⟩
  | cons c text ih =>
    obtain ⟨hwhole, hopen⟩ := chomped_keep_add (c := c) h
    obtain ⟨hwhole', hopen'⟩ := ih hopen
    exact ⟨by rw [addAll, hwhole', hwhole, List.append_assoc, List.singleton_append], hopen'⟩

/-- The break after a line belongs to the text or not. -/
theorem chomped_addAll_break (hopen : lines.IsOpen) (hbreak : isBreak c) :
    (lines.addAll true [c]).chomped .strip = lines.chomped .keep ∧
      (lines.addAll true [c]).chomped .clip = lines.chomped .keep ++ [c] := by
  obtain ⟨hlast, hbreaks⟩ := hopen
  simp [addAll, add, hbreak, chomped, hlast, hbreaks]

end Lines

/-! ## Reading lines -/

variable {indent line column : Nat} {inLine : Bool} {lines : Lines} {c : Char} {cs : List Char}

/-- A break ends a line, or is an empty one. -/
theorem scan_break (hbreak : isBreak c) :
    scan false indent inLine lines (.place line column (c :: cs)) =
      scan false indent false (lines.add inLine c) (.place (line + 1) 0 cs) := by
  rw [Layout.place, if_pos hbreak]
  cases inLine <;> simp only [scan, Lines.add, hbreak, if_true]

/-- A character goes on with its line, or starts it where the indentation ends. -/
theorem scan_char (hbreak : isBreak c = false) (hend : c ≠ endMark)
    (hcolumn : inLine = false → column = indent) :
    scan false indent inLine lines (.place line column (c :: cs)) =
      scan false indent true (lines.add inLine c) (.place line (column + 1) cs) := by
  rw [Layout.place_cons_of_not_break hbreak]
  cases inLine with
  | true => simp only [scan, Lines.add, hbreak, beq_eq_false_iff_ne.mpr hend, Bool.false_eq_true,
      if_false]
  | false =>
    obtain rfl := hcolumn rfl
    simp [scan, Lines.add, hbreak, hend]

/-- Spaces up to the indentation are dropped. -/
theorem scan_spaces {n : Nat} (hcolumn : column + n ≤ indent) :
    scan false indent false lines (.place line column (spaces n ++ cs)) =
      scan false indent false lines (.place line (column + n) cs) := by
  refine Layout.pass_spaces fun place hplace ds => ?_
  have hbreak : isBreak ' ' = false := by decide
  have hlt : place < indent := Nat.lt_of_lt_of_le hplace hcolumn
  rw [Layout.place, hbreak]
  simp [scan, hbreak, hlt]

/-- **Lines as they are written are read**, character by character. -/
theorem scan_written {text : List Char} (hchar : ∀ c ∈ text, c ≠ endMark)
    (hcolumn : inLine = false → column = 0) :
    scan false indent inLine lines
        (.place line column (Writing.literal indent (!inLine) text ++ cs)) =
      scan false indent (Lines.endsInLine inLine text) (lines.addAll inLine text)
        (.place (Layout.lineAfter line (Writing.literal indent (!inLine) text))
          (Layout.columnAfter column (Writing.literal indent (!inLine) text)) cs) := by
  induction text generalizing inLine lines line column with
  | nil => rfl
  | cons c text ih =>
    have hend : c ≠ endMark := hchar c List.mem_cons_self
    have hchars := fun d hd => hchar d (List.mem_cons_of_mem c hd)
    cases hbreak : isBreak c with
    | true =>
      rw [Writing.literal, if_pos hbreak, List.cons_append, scan_break hbreak, Lines.addAll,
        Lines.endsInLine, hbreak]
      -- behind a line break, the next line starts at the margin
      refine (@ih (line + 1) 0 false (lines.add inLine c) hchars fun _ => rfl).trans ?_
      rw [Layout.lineAfter, Layout.columnAfter, if_pos hbreak, if_pos hbreak]
      rfl
    | false =>
      have hread := fun column =>
        @ih line (column + 1) true (lines.add inLine c) hchars Bool.noConfusion
      rw [Writing.literal, if_neg (by simp [hbreak]), Lines.addAll, Lines.endsInLine, hbreak]
      cases inLine with
      | true =>
        refine (scan_char hbreak hend (by simp)).trans ((hread column).trans ?_)
        simp [Layout.lineAfter, Layout.columnAfter, hbreak]
      | false =>
        -- the first character of a line stands behind its indentation
        obtain rfl := hcolumn rfl
        simp only [Bool.not_false, if_true, List.append_assoc, Layout.lineAfter_append,
          Layout.columnAfter_append, Layout.lineAfter_spaces, Layout.columnAfter_spaces,
          Nat.zero_add]
        rw [scan_spaces (Nat.le_of_eq (Nat.zero_add indent)), Nat.zero_add, List.cons_append]
        refine (scan_char hbreak hend fun _ => rfl).trans ((hread indent).trans ?_)
        simp [Layout.lineAfter, Layout.columnAfter, hbreak]

/-- What is indented less ends the scalar. -/
theorem scan_end (hcs : StartsToken cs) (hcolumn : column < indent) :
    scan false indent false lines (.place line column cs) =
      some (lines, .place line column cs) := by
  have hblank := hcs.not_blank
  simp only [isBlank, Bool.or_eq_true, beq_iff_eq, not_or] at hblank
  obtain ⟨rest, hplace⟩ := Layout.exists_place_eq_cons line column cs
  have hbreak := hcs.not_break
  rw [hplace]
  generalize cs.headD endMark = c at hblank hbreak
  simp [scan, hbreak, hblank, Nat.ne_of_lt hcolumn]

end Block

/-! ## Headers -/

namespace Writing

open Block (Lines)

variable {text : List Char}

/-- The three endings of a text, and what the header says of them: no line break, one line break
that is not by itself, or anything else. -/
theorem chompHint_cases (h : text ≠ []) :
    (chompHint text = ['-'] ∧ endLine text = text ++ ['\n'] ∧ Lines.endsInLine false text) ∨
    (chompHint text = ['+'] ∧ endLine text = text ∧ Lines.endsInLine false text = false) ∨
    chompHint text = [] ∧ endLine text = text ∧
      ∃ before c, text = before ++ [c] ∧ isBreak c ∧ Lines.endsInLine false before := by
  obtain ⟨before, c, rfl⟩ := (List.eq_nil_or_concat' text).resolve_left h
  rw [chompHint, endLine, List.reverse_append, List.getLast?_concat, Option.any_some,
    Lines.endsInLine_append, Lines.endsInLine, Lines.endsInLine]
  cases hbreak : isBreak c with
  | false => exact .inl ⟨by simp [hbreak], rfl, rfl⟩
  | true =>
    obtain rfl | ⟨before, d, rfl⟩ := List.eq_nil_or_concat' before
    · exact .inr (.inl ⟨by simp [hbreak], rfl, rfl⟩)
    · cases hbreak' : isBreak d with
      | true => exact .inr (.inl ⟨by simp [hbreak, hbreak'], rfl, rfl⟩)
      | false =>
        refine .inr (.inr ⟨by simp [hbreak, hbreak'], rfl, before ++ [d], c, rfl, hbreak, ?_⟩)
        rw [Lines.endsInLine_append, Lines.endsInLine, Lines.endsInLine, hbreak']
        rfl

/-- **The lines that were read are chopped as the header says**, which leaves the text. -/
theorem chomped_written (h : text ≠ []) : ∃ chomping,
    ((∀ line column cs, Block.header?
      (.place line column (indentHint text ++ chompHint text ++ '\n' :: cs)) =
        some (⟨chomping, if text.head?.any isTrimmed then some indentStep else none⟩,
          .place line (column + (indentHint text ++ chompHint text).length) ('\n' :: cs)))) ∧
    (Lines.fresh.addAll false (endLine text)).chomped chomping = text := by
  have hadd (text : List Char) := @Lines.chomped_keep_addAll false .fresh text nofun
  obtain ⟨hhint, hline, hopen⟩ | ⟨hhint, hline, -⟩ |
      ⟨hhint, hline, before, c, rfl, hbreak, hopen⟩ := chompHint_cases h
  · -- the line feed behind the text is not part of it
    refine ⟨.strip, fun line column cs => ?_, ?_⟩
    · rw [indentHint, hhint]
      split <;> rfl
    · obtain ⟨hwhole, hlines⟩ := hadd text
      rw [hline, Lines.addAll_append, hopen]
      exact (Lines.chomped_addAll_break (hlines hopen) (by decide)).1.trans hwhole
  · -- all breaks at the end are part of the text
    refine ⟨.keep, fun line column cs => ?_, ?_⟩
    · rw [indentHint, hhint]
      split <;> rfl
    · rw [hline]
      exact (hadd text).1
  · -- the text ends with its last line
    refine ⟨.clip, fun line column cs => ?_, ?_⟩
    · rw [indentHint, hhint]
      split <;> rfl
    · obtain ⟨hwhole, hlines⟩ := hadd before
      rw [hline, Lines.addAll_append, hopen]
      refine (Lines.chomped_addAll_break (hlines hopen) hbreak).2.trans ?_
      rw [hwhole]
      rfl

/-- A line is ended by nothing or by a line feed; then it ends in a break. -/
theorem exists_endLine_eq (line : List Char) : ∃ before c ending,
    endLine line = before ++ [c] ∧ isBreak c ∧ endLine line = line ++ ending ∧
      ∀ d ∈ ending, d = '\n' := by
  rw [endLine]
  split
  next h =>
    obtain ⟨c, hlast, hbreak⟩ := (Option.any_eq_true _ _).mp h
    exact ⟨line.dropLast, c, [], (List.dropLast_append_getLast? c hlast).symm, hbreak,
      (List.append_nil line).symm, nofun⟩
  next => exact ⟨line, '\n', ['\n'], rfl, by decide, rfl, by simp⟩

/-- The last character of a text is written last. -/
theorem exists_literal_concat (indent : Nat) (broken : Bool) (text : List Char) (c : Char) :
    ∃ before, literal indent broken (text ++ [c]) = before ++ [c] := by
  -- on the text before it; `broken` only adds an indentation in front
  induction text generalizing broken with
  | nil =>
    rw [List.nil_append, literal]
    split
    · exact ⟨[], rfl⟩
    · exact ⟨_, rfl⟩
  | cons d text ih =>
    rw [List.cons_append, literal]
    split
    · obtain ⟨before, h⟩ := ih true
      exact ⟨d :: before, by rw [h, List.cons_append]⟩
    · obtain ⟨before, h⟩ := ih false
      refine ⟨(if broken then spaces indent else []) ++ d :: before, ?_⟩
      rw [h, List.append_assoc, List.cons_append]

/-- A break at the end is written as it is. -/
theorem literal_concat_break {c : Char} (hbreak : isBreak c) (indent : Nat) (broken : Bool)
    (text : List Char) :
    literal indent broken (text ++ [c]) = literal indent broken text ++ [c] := by
  induction text generalizing broken with
  | nil => simp [literal, hbreak]
  | cons d text ih =>
    rw [List.cons_append, literal, literal]
    split
    · rw [ih, List.cons_append]
    · rw [ih, List.append_assoc, List.cons_append]

/-- **Ending the last line** of a literal block scalar does not depend on how it is written. -/
theorem endLine_literal (h : text ≠ []) (front : List Char) (indent : Nat) (broken : Bool) :
    endLine (front ++ literal indent broken text) =
      front ++ literal indent broken (endLine text) := by
  obtain ⟨before, c, rfl⟩ := (List.eq_nil_or_concat' text).resolve_left h
  obtain ⟨written, hwritten⟩ := exists_literal_concat indent broken before c
  rw [endLine, endLine, List.getLast?_concat, hwritten, ← List.append_assoc, List.getLast?_concat]
  split
  · rw [hwritten, List.append_assoc]
  · rw [literal_concat_break (by decide), hwritten, List.append_assoc, List.append_assoc,
      List.append_assoc]

end Writing

/-! ## Literal block scalars -/

namespace Block

variable {line column : Nat} {text cs : List Char}

/-- The indentation is measured by the first line, if this starts with neither a blank nor a
break. -/
theorem measure_spaces {least n : Nat} {c : Char} (hn : least ≤ column + n) (hblank : ¬ isBlank c)
    (hbreak : ¬ isBreak c) :
    measure least [] (.place line column (spaces n ++ c :: cs)) =
      some (column + n, [], .place line (column + n) (c :: cs)) := by
  induction n generalizing column with
  | zero =>
    simp only [isBlank, Bool.or_eq_true, not_or] at hblank
    have hmax : max least column = column := Nat.max_eq_right hn
    rw [spaces, List.replicate_zero, List.nil_append, Layout.place_cons, measure, if_neg hblank.1,
      if_neg hblank.2, if_neg hbreak, hmax, Nat.add_zero, Layout.place_cons]
  | succ n ih =>
    have hstep : measure least [] (.place line column (spaces (n + 1) ++ c :: cs)) =
        measure least [] (.place line (column + 1) (spaces n ++ c :: cs)) := rfl
    rw [hstep, ih (by omega), Nat.add_assoc, Nat.add_comm 1]

/-- The lines of a text are read up to what starts left of them. -/
theorem scan_lines {indent n : Nat} {lines : Lines} (hprintable : ∀ c ∈ text, isPrintable c)
    (hindent : indent < n) (hcs : StartsToken cs) :
    scan false n false lines (.place line 0
      (Writing.literal n true (Writing.endLine text) ++ (spaces indent ++ cs))) =
      some (lines.addAll false (Writing.endLine text),
        .place (Layout.lineAfter line (Writing.literal n true (Writing.endLine text))) indent
          cs) := by
  obtain ⟨before, b, ending, hline, hbreak, hending, hfeeds⟩ := Writing.exists_endLine_eq text
  have hchar : ∀ c ∈ Writing.endLine text, c ≠ endMark := fun c hc => by
    obtain hc | hc := List.mem_append.mp (hending ▸ hc)
    · exact (ne_of_isPrintable (hprintable c hc)).1
    · rw [hfeeds c hc]
      decide
  have hended : Lines.endsInLine false (Writing.endLine text) = false := by
    rw [hline, Lines.endsInLine_append, Lines.endsInLine, Lines.endsInLine, hbreak]
    rfl
  have hcolumn : Layout.columnAfter 0 (Writing.literal n true (Writing.endLine text)) = 0 := by
    rw [hline, Writing.literal_concat_break hbreak, Layout.columnAfter_append, Layout.columnAfter,
      if_pos hbreak, Layout.columnAfter]
  refine (scan_written hchar fun _ => rfl).trans ?_
  rw [hended, Bool.not_false, hcolumn, scan_spaces (by omega), Nat.zero_add, scan_end hcs hindent]

/-- The steps of reading a block scalar. -/
theorem read?_eq_some {folded : Bool} {margin indent : Nat} {header : Header} {lines : Lines}
    {breaks : List Char} {layout headed started measured rest : Layout}
    (hheader : header? layout = some (header, headed)) (hline : headed.finishLine? = some started)
    (hindent : (match header.increment with
      | some increment => some (margin - 1 + increment, [], started)
      | none => measure (max margin 1) [] started) = some (indent, breaks, measured))
    (hscan : scan folded indent false ⟨[], [], breaks, false⟩ measured = some (lines, rest)) :
    read? folded margin layout = some (lines.chomped header.chomping, rest) := by
  simp only [read?, hheader, hline, Option.bind_eq_bind, Option.bind_some]
  cases hincrement : header.increment with
  | some increment =>
    rw [hincrement] at hindent
    obtain ⟨rfl, rfl, rfl⟩ := hindent
    simp [hscan]
  | none =>
    rw [hincrement] at hindent
    simp [hindent, hscan]

/-- **A literal block scalar is read back**, with the end of its last line, if what follows starts
left of the margin. -/
theorem read?_written {margin indent : Nat} (hallows : Writing.allowsLiteral text) (h : text ≠ [])
    (hindent : indent < margin) (hcs : StartsToken cs) : ∃ line', line < line' ∧
    read? false margin (.place line column (Writing.indentHint text ++ Writing.chompHint text ++
      '\n' :: (Writing.literal (margin + 1) true (Writing.endLine text) ++
        (spaces indent ++ cs)))) = some (text, .place line' indent cs) := by
  simp only [Writing.allowsLiteral, Bool.and_eq_true, List.all_eq_true] at hallows
  obtain ⟨⟨hprintable, -⟩, -⟩ := hallows
  obtain ⟨chomping, hheader, hchomped⟩ := Writing.chomped_written h
  have hread := @scan_lines (line + 1) text cs indent (margin + 1) .fresh hprintable (by omega) hcs
  refine ⟨Layout.lineAfter (line + 1) (Writing.literal (margin + 1) true (Writing.endLine text)),
    Nat.lt_of_lt_of_le (Nat.lt_succ_self line) Layout.le_lineAfter, ?_⟩
  by_cases hled : text.head?.any Writing.isTrimmed
  · -- the header gives the indentation
    have hmargin : margin - 1 + indentStep = margin + 1 := by
      rw [indentStep]
      omega
    refine (read?_eq_some (hheader line column _) rfl ?_ hread).trans (by rw [hchomped])
    simp only [hled, if_true, hmargin]
    rfl
  · -- the first line shows it
    obtain ⟨c, more, rfl⟩ := List.exists_cons_of_ne_nil h
    obtain ⟨-, -, ending, -, -, hending, -⟩ := Writing.exists_endLine_eq (c :: more)
    have hc := hled
    simp only [List.head?_cons, Option.any_some, Writing.isTrimmed, Bool.or_eq_true, not_or] at hc
    obtain ⟨hspace, hbreak⟩ := hc
    have hblank : ¬ isBlank c := by
      have htab := (ne_of_isPrintable (hprintable c List.mem_cons_self)).2.1
      simpa [isBlank, htab, Writing.isSpace] using hspace
    have hwritten : Writing.literal (margin + 1) true (Writing.endLine (c :: more)) =
        spaces (margin + 1) ++ c :: Writing.literal (margin + 1) false (more ++ ending) := by
      rw [hending, List.cons_append, Writing.literal, if_neg hbreak, if_pos rfl]
    have hleast : max margin 1 ≤ 0 + (margin + 1) := by omega
    rw [hwritten, List.append_assoc, scan_spaces (by omega)] at hread
    refine (read?_eq_some (hheader line column _) rfl ?_ hread).trans (by rw [hchomped, hwritten])
    simp only [hled, Bool.false_eq_true, if_false]
    rw [hwritten, List.append_assoc]
    exact (measure_spaces hleast hblank hbreak).trans (by rw [Nat.zero_add]; rfl)

end Block

end DrumMachine.Yaml
