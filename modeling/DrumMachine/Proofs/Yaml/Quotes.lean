import DrumMachine.Proofs.Text.Numerals
import DrumMachine.Proofs.Yaml.Gaps
import DrumMachine.Proofs.Yaml.Places
import DrumMachine.Yaml.Quoted
import DrumMachine.Yaml.Writing
import Mathlib.Algebra.Group.Nat.Defs

/-! # Quoted scalars that are read back

What is written in quotes is read back, whatever follows the last quote. While a reader goes through
what was written, the text so far is what it has accumulated and, behind it, what the gap
contributes (`Gap.text`). In double quotes a gap is never broken, since line breaks are escaped
(`Quoted.double?_written`). In single quotes a gap may hold line breaks other than line feeds, which
a gap keeps; but then blanks must not touch them, for these would be lost
(`Quoted.single?_written`). -/

namespace DrumMachine.Yaml

namespace Quoted

variable {line column : Nat} {gap : Gap} {acc cs : List Char} {c : Char}

/-! ## Double quotes -/

/-- A blank adds to the gap. -/
theorem double_space : double (.within gap) acc (.place line column (' ' :: cs)) =
    double (.within (gap.addBlank ' ')) acc (.place line (column + 1) cs) := rfl

/-- Any other character closes the gap: it ends the scalar, starts an escape or stands for
itself. -/
theorem double_char (hc : ¬ isSeparator c) (hcolumn : 0 < column) :
    double (.within gap) acc (.place line column (c :: cs)) =
      if c == '\x22' then some ((gap.text.reverse ++ acc).reverse, .place line (column + 1) cs)
      else if c == '\\' then
        double .escape (gap.text.reverse ++ acc) (.place line (column + 1) cs)
      else double (.within .none) (c :: (gap.text.reverse ++ acc))
        (.place line (column + 1) cs) := by
  simp only [isSeparator, isLineEnd, Bool.or_eq_true, not_or, Bool.not_eq_true] at hc
  have hmark := Layout.isDocumentMark_place line (c :: cs) hcolumn
  rw [Layout.place_cons_of_not_break hc.2.1] at hmark ⊢
  simp only [double, hc, hmark, Bool.false_or, Bool.false_eq_true, if_false]

/-- The digits of an escape are read as the character of their number. -/
theorem double_digits {ds : List Char} {left value n : Nat} (hlength : ds.length = left)
    (hleft : 0 < left) (hn : Text.Numeral.onto? 16 value ds = some n) (hvalid : n.isValidChar) :
    double (.digits left value) acc (.place line column (ds ++ cs)) =
      double (.within .none) (Char.ofNat n :: acc)
        (.place (Layout.lineAfter line ds) (Layout.columnAfter column ds) cs) := by
  -- on the digits; `value` is what those before them are worth
  induction ds generalizing left value line column with
  | nil => exact absurd hlength (Nat.ne_of_lt hleft)
  | cons d ds ih =>
    rw [Text.Numeral.onto?] at hn
    rw [List.cons_append, Layout.place_cons, double]
    cases hd : Text.Numeral.digit? 16 d with
    | none => simp [hd] at hn
    | some digit =>
      simp only [hd] at hn ⊢
      rw [List.length_cons] at hlength
      by_cases hlast : 1 < left
      · rw [if_pos hlast]
        exact ih (by omega) (by omega) hn
      · -- the last digit
        obtain rfl : ds = [] := List.length_eq_zero_iff.mp (by omega)
        obtain rfl : value * 16 + digit = n := by simpa [Text.Numeral.onto?] using hn
        rw [if_neg hlast, ofCodePoint?, if_pos hvalid]
        rfl

end Quoted

namespace Writing

/-! ## Escapes -/

/-- The characters with a short escape. -/
def shortEscaped : List Char :=
  ['\x00', '\x07', '\x08', '\t', '\n', '\x0b', '\x0c', '\r', '\x1b', '\x22', '\\', '\u0085',
    '\u2028', '\u2029']

/-- A character with a short escape is written with it, and the escape stands for it. -/
theorem escape_of_mem {c : Char} (h : c ∈ shortEscaped) :
    ∃ e, escape c = ['\\', e] ∧ Quoted.shortEscape? e = some c ∧ isPrintable e ∧ ¬ isBreak e := by
  have hall : shortEscaped.all fun c => escape c = ['\\', (escape c).getD 1 c] ∧
      Quoted.shortEscape? ((escape c).getD 1 c) = some c ∧
      isPrintable ((escape c).getD 1 c) ∧ ¬ isBreak ((escape c).getD 1 c) := by
    decide
  exact ⟨_, of_decide_eq_true (List.all_eq_true.mp hall c h)⟩

/-- Any other character is written as itself or with its number. -/
theorem escape_of_notMem {c : Char} (h : c ∉ shortEscaped) :
    escape c = if isPrintable c then [c]
      else if c.toNat ≤ 0xFF then ['\\', 'x'] ++ hex 2 c.toNat
      else if c.toNat ≤ 0xFFFF then ['\\', 'u'] ++ hex 4 c.toNat
      else ['\\', 'U'] ++ hex 8 c.toNat := by
  simp only [shortEscaped, List.mem_cons, List.not_mem_nil, or_false, not_or] at h
  simp only [escape, beq_iff_eq, h, if_false]

/-- **The three ways to write a character in double quotes**: as it is, in a short escape, or by its
code point. -/
theorem escape_cases (c : Char) :
    (escape c = [c] ∧ isPrintable c ∧ c ∉ shortEscaped) ∨
    (∃ e, escape c = ['\\', e] ∧ Quoted.shortEscape? e = some c ∧
      isPrintable e ∧ ¬ isBreak e) ∨
    ∃ e n, escape c = '\\' :: e :: hex n c.toNat ∧ Quoted.shortEscape? e = none ∧
      Quoted.escapeDigits? e = some n ∧ (isPrintable e ∧ ¬ isBreak e) ∧ 0 < n ∧
      c.toNat < 16 ^ n := by
  by_cases h : c ∈ shortEscaped
  · exact .inr (.inl (escape_of_mem h))
  · rw [escape_of_notMem h]
    by_cases hprintable : isPrintable c
    · rw [if_pos hprintable]
      exact .inl ⟨rfl, hprintable, h⟩
    · have hsize : c.toNat < 0x110000 := by
        have hvalid : c.toNat.isValidChar := c.valid
        rw [Nat.isValidChar] at hvalid
        omega
      refine .inr (.inr ?_)
      rw [if_neg hprintable]
      split_ifs with htwo hfour
      · exact ⟨'x', 2, rfl, by decide, by decide, by decide, by decide, by omega⟩
      · exact ⟨'u', 4, rfl, by decide, by decide, by decide, by decide, by omega⟩
      · exact ⟨'U', 8, rfl, by decide, by decide, by decide, by decide, by omega⟩

/-- The digits of a code point are as many as they should be, and are read back. -/
theorem onto?_hex {places n : Nat} (hplaces : 0 < places) (h : n < 16 ^ places) :
    (hex places n).length = places ∧ Text.Numeral.onto? 16 0 (hex places n) = some n := by
  have hlength : ((Nat.toDigits 16 n).map Char.toUpper).length ≤ places := by
    rw [List.length_map]
    exact (Nat.length_toDigits_le_iff (by decide) hplaces).mpr h
  have hdigits : Text.Numeral.onto? 16 0 ((Nat.toDigits 16 n).map Char.toUpper) = some n :=
    Text.Numeral.onto?_map_toDigits (by decide)
      (fun d hd => (Text.Numeral.digit?_digitChar hd (by decide)).2) n
  rw [hex, Text.Numeral.onto?_append, Text.Numeral.onto?_replicate_zero _ (by decide),
    List.length_append, List.length_replicate]
  exact ⟨Nat.sub_add_cancel hlength, hdigits⟩

/-- Every break has a short escape. -/
theorem not_isBreak_of_notMem {c : Char} (h : c ∉ shortEscaped) : ¬ isBreak c := by
  simp only [shortEscaped, List.mem_cons, List.not_mem_nil, or_false, not_or] at h
  simp [isBreak, h]

/-- **What is written for a character** is printable and ends no line. -/
theorem isPrintable_of_mem_escape {c d : Char} (h : d ∈ escape c) :
    isPrintable d ∧ ¬ isBreak d := by
  have hbackslash : isPrintable '\\' ∧ ¬ isBreak '\\' := by decide
  obtain ⟨hwritten, hprintable, hescape⟩ | ⟨e, hwritten, -, he⟩ |
    ⟨e, n, hwritten, -, -, he, hn, hsize⟩ := escape_cases c
  · rw [hwritten, List.mem_singleton] at h
    rw [h]
    exact ⟨hprintable, not_isBreak_of_notMem hescape⟩
  · rw [hwritten] at h
    obtain rfl | rfl : d = '\\' ∨ d = e := by simpa using h
    · exact hbackslash
    · exact he
  · rw [hwritten] at h
    obtain ⟨-, hread⟩ := onto?_hex hn hsize
    obtain rfl | rfl | hmem : d = '\\' ∨ d = e ∨ d ∈ hex n c.toNat := by simpa using h
    · exact hbackslash
    · exact he
    · obtain ⟨hlow, hhigh⟩ :=
        Text.Numeral.range_of_isSome_digit? (Text.Numeral.isSome_digit?_of_onto? hread hmem)
      exact isPrintable_of_range (Char.le_trans (by decide) hlow) (Char.le_trans hhigh (by decide))

end Writing

namespace Quoted

variable {line column : Nat} {gap : Gap} {acc cs : List Char}

/-- What is written as itself in double quotes is no separator, except for a space. -/
theorem not_isSeparator_of_notMem {c : Char} (h : isPrintable c)
    (hescape : c ∉ Writing.shortEscaped) (hspace : c ≠ ' ') : ¬ isSeparator c := by
  have hne := ne_of_isPrintable h
  simp only [Writing.shortEscaped, List.mem_cons, List.not_mem_nil, or_false, not_or] at hescape
  simp [isSeparator, isBlank, isLineEnd, isBreak, hescape, hspace, hne]

/-- The quote and the backslash have short escapes. -/
theorem ne_of_notMem {c : Char} (h : c ∉ Writing.shortEscaped) : c ≠ '\x22' ∧ c ≠ '\\' := by
  refine ⟨?_, ?_⟩ <;> (rintro rfl; revert h; decide)

/-- **A character that is written in double quotes is read back.** -/
theorem double_escape {c : Char} (hspace : c ≠ ' ') (hcolumn : 0 < column) :
    double (.within gap) acc (.place line column (Writing.escape c ++ cs)) =
      double (.within .none) (c :: (gap.text.reverse ++ acc))
        (.place (Layout.lineAfter line (Writing.escape c))
          (Layout.columnAfter column (Writing.escape c)) cs) := by
  have hbackslash : ∀ ds, double (.within gap) acc (.place line column ('\\' :: ds)) =
      double .escape (gap.text.reverse ++ acc) (.place line (column + 1) ds) := fun ds => by
    rw [double_char (by decide) hcolumn, if_neg (by decide), if_pos (by decide)]
  obtain ⟨hwritten, hprintable, hescape⟩ | ⟨e, hwritten, hshort, -, hbreak⟩ |
    ⟨e, n, hwritten, hshort, hdigits, ⟨-, hbreak⟩, hn, hsize⟩ := Writing.escape_cases c
  · -- as it is
    have hsep := not_isSeparator_of_notMem hprintable hescape hspace
    obtain ⟨hquote, hback⟩ := ne_of_notMem hescape
    have hnot : ¬ isBreak c := fun h => hsep (by simp [isSeparator, isLineEnd, h])
    rw [hwritten, List.singleton_append, double_char hsep hcolumn, if_neg (by simpa using hquote),
      if_neg (by simpa using hback), Layout.lineAfter_of_not_break (by simpa using hnot),
      Layout.columnAfter_of_not_break (by simpa using hnot), List.length_singleton]
  · -- in a short escape
    rw [hwritten, List.cons_append, List.singleton_append, hbackslash, Layout.place_cons, double,
      if_neg hbreak]
    simp only [hshort]
    rfl
  · -- by its code point
    obtain ⟨hlength, hread⟩ := Writing.onto?_hex hn hsize
    rw [hwritten, List.cons_append, List.cons_append, hbackslash, Layout.place_cons, double,
      if_neg hbreak]
    simp only [hshort, hdigits]
    rw [double_digits hlength hn hread c.valid, Char.ofNat_toNat]
    rfl

/-- **A text in double quotes is read back.** -/
theorem double_written (hgap : gap.IsFlat) (hcolumn : 0 < column) (text : List Char) :
    double (.within gap) acc
        (.place line column (text.flatMap Writing.escape ++ '\x22' :: cs)) =
      some (acc.reverse ++ gap.text ++ text,
        .place line (column + (text.flatMap Writing.escape).length + 1) cs) := by
  -- on the text; the gap holds the spaces that have been read but not yet counted
  induction text generalizing gap acc column with
  | nil =>
    rw [List.flatMap_nil, List.nil_append, double_char (by decide) hcolumn, if_pos (by decide)]
    simp
  | cons c text ih =>
    rw [List.flatMap_cons, List.append_assoc, List.length_append, ← Nat.add_assoc]
    by_cases hspace : c = ' '
    · subst hspace
      have hwritten : Writing.escape ' ' = [' '] := by decide
      rw [hwritten, List.singleton_append, double_space,
        ih (Gap.isFlat_addBlank hgap ' ') (Nat.succ_pos column), Gap.text_addBlank hgap]
      simp
    · have hbreak : ∀ d ∈ Writing.escape c, ¬ isBreak d := fun d hd =>
        (Writing.isPrintable_of_mem_escape hd).2
      rw [double_escape hspace hcolumn, Layout.lineAfter_of_not_break hbreak,
        Layout.columnAfter_of_not_break hbreak, ih Gap.isFlat_none (Nat.add_pos_left hcolumn _)]
      simp

/-- **What is written in double quotes is read back.** -/
theorem double?_written (hcolumn : 0 < column) (text : List Char) :
    double? (.place line column (text.flatMap Writing.escape ++ '\x22' :: cs)) =
      some (text, .place line (column + (text.flatMap Writing.escape).length + 1) cs) := by
  rw [double?, double_written Gap.isFlat_none hcolumn]
  rfl

/-! ## Single quotes -/

/-- A blank adds to the gap. -/
theorem single_space : single gap acc (.place line column (' ' :: cs)) =
    single (gap.addBlank ' ') acc (.place line (column + 1) cs) := by
  rw [Layout.place_cons, single]
  rfl

/-- Blanks at the start of a line are dropped. -/
theorem single_spaces (hgap : gap.isBroken) (n : Nat) :
    single gap acc (.place line column (spaces n ++ cs)) =
      single gap acc (.place line (column + n) cs) := by
  cases gap with
  | none => cases hgap
  | blanks chars => cases hgap
  | breaks first more => exact Layout.pass_spaces fun _ _ _ => single_space

/-- In single quotes a break adds to the gap. -/
theorem single_break {c : Char} (hbreak : isBreak c) :
    single gap acc (.place line column (c :: cs)) =
      single (gap.addBreak c) acc (.place (line + 1) 0 cs) := by
  have hblank : ¬ isBlank c := by
    intro h
    simp only [isBlank, Bool.or_eq_true, beq_iff_eq] at h
    obtain rfl | rfl := h <;> (revert hbreak; decide)
  rw [Layout.place, if_pos hbreak, single, if_neg hblank, if_pos hbreak]

/-- Any other character closes the gap: it is a quote, of which two stand for one, or it stands for
itself. -/
theorem single_char (hsep : ¬ isSeparator c) (hcolumn : 0 < column) :
    single gap acc (.place line column (c :: cs)) =
      if c = '\'' then
        if cs.headD endMark = '\'' then
          single .none ('\'' :: (gap.text.reverse ++ acc)) (.place line (column + 2) cs.tail)
        else some ((gap.text.reverse ++ acc).reverse, .place line (column + 1) cs)
      else single .none (c :: (gap.text.reverse ++ acc)) (.place line (column + 1) cs) := by
  simp only [isSeparator, isLineEnd, Bool.or_eq_true, not_or, Bool.not_eq_true] at hsep
  have hmark := Layout.isDocumentMark_place line (c :: cs) hcolumn
  rw [Layout.place_cons_of_not_break hsep.2.1] at hmark ⊢
  simp only [single, hsep, hmark, Bool.or_false, Bool.false_eq_true, if_false, beq_iff_eq]
  by_cases hquote : c = '\''
  · rw [if_pos hquote, if_pos hquote]
    cases cs with
    | nil => rfl
    | cons d cs =>
      rw [Layout.place_cons]
      by_cases hd : d = '\''
      · subst hd
        rfl
      · simp only [List.headD_cons, hd, if_false]
  · rw [if_neg hquote, if_neg hquote]

end Quoted

/-- What has no pair has none at its start and none in the rest. -/
theorem Writing.hasPair_cons {p q : Char → Bool} {c : Char} {text : List Char}
    (h : Writing.hasPair p q (c :: text) = false) :
    (∀ d ∈ text.head?, p c → ¬ q d) ∧ Writing.hasPair p q text = false := by
  cases text with
  | nil => exact ⟨by simp, rfl⟩
  | cons d text =>
    rw [Writing.hasPair, Bool.or_eq_false_iff, Bool.and_eq_false_iff] at h
    refine ⟨?_, h.2⟩
    rintro _ ⟨⟩ hc hd
    simp [hc, hd] at h

namespace Quoted

variable {line column : Nat} {gap : Gap} {acc cs : List Char}

/-- The indentation of a line that has just started says nothing. -/
theorem single_indented {indent : Nat} (line : Nat) (acc : List Char) (hindent : 0 < indent)
    (hcolumn : ¬ gap.isBroken → 0 < column) : ∃ column', 0 < column' ∧
      column' = Layout.columnAfter column (if gap.isBroken then spaces indent else []) ∧
      line = Layout.lineAfter line (if gap.isBroken then spaces indent else []) ∧
      ∀ ds, single gap acc
        (.place line column ((if gap.isBroken then spaces indent else []) ++ ds)) =
        single gap acc (.place line column' ds) := by
  by_cases hbroken : gap.isBroken
  · rw [if_pos hbroken, Layout.columnAfter_spaces, Layout.lineAfter_spaces]
    exact ⟨_, Nat.add_pos_right _ hindent, rfl, rfl, fun ds => single_spaces hbroken indent⟩
  · rw [if_neg hbroken]
    exact ⟨column, hcolumn hbroken, rfl, rfl, fun ds => rfl⟩

/-- **Lines in single quotes are read back**, from where the text so far ends in a gap, which is
broken if a line has just started. -/
theorem single_written {indent : Nat} {text : List Char} (hindent : 0 < indent)
    (hcolumn : ¬ gap.isBroken → 0 < column) (hgap : gap.Keeps)
    (hmeets : ∀ c ∈ text.head?, gap.Meets c) (hchar : ∀ c ∈ text, isPrintable c ∧ c ≠ '\n')
    (hled : Writing.hasPair isBreak Writing.isSpace text = false)
    (htrailed : Writing.hasPair Writing.isSpace isBreak text = false)
    (hrest : cs.headD endMark ≠ '\'') :
    single gap acc (.place line column (Writing.single indent gap.isBroken text ++ cs)) =
      some (acc.reverse ++ gap.text ++ text,
        .place (Layout.lineAfter line (Writing.single indent gap.isBroken text))
          (Layout.columnAfter column (Writing.single indent gap.isBroken text)) cs) := by
  -- on the text; a gap is kept back until it is known what comes behind it
  induction text generalizing gap acc line column with
  | nil =>
    obtain ⟨column', hpos, hcol, hline, hread⟩ :=
      single_indented line acc hindent hcolumn
    rw [Writing.single, List.append_assoc, hread, List.singleton_append,
      single_char (by decide) hpos, if_pos rfl, if_neg hrest, Layout.lineAfter_append,
      Layout.columnAfter_append, ← hcol, ← hline, List.reverse_append, List.reverse_reverse,
      List.append_nil]
    rfl
  | cons c text ih =>
    obtain ⟨hprintable, hfeed⟩ := hchar c List.mem_cons_self
    have hchars := fun d hd => hchar d (List.mem_cons_of_mem c hd)
    have hc : gap.Meets c := hmeets c rfl
    obtain ⟨hnextLed, hled'⟩ := Writing.hasPair_cons hled
    obtain ⟨hnextTrailed, htrailed'⟩ := Writing.hasPair_cons htrailed
    by_cases hbreak : isBreak c
    · -- a line break is kept in the gap, and what comes next is no space
      obtain ⟨hkeeps, htext⟩ := Gap.keeps_addBreak hgap hc hbreak hfeed
      have hbroken : (gap.addBreak c).isBroken = true := by cases gap <;> rfl
      have hspace : ∀ d ∈ text.head?, (gap.addBreak c).Meets d := fun d hd => by
        have hne : d ≠ ' ' := by simpa [Writing.isSpace] using hnextLed d hd hbreak
        cases gap <;> exact hne
      have hrec := @ih (line + 1) 0 (gap.addBreak c) acc (by simp [hbroken]) hkeeps hspace hchars
        hled' htrailed'
      rw [Writing.single, if_pos hbreak, List.cons_append, single_break hbreak,
        Layout.lineAfter, Layout.columnAfter, if_pos hbreak, if_pos hbreak, ← hbroken, hrec, htext,
        List.append_assoc, List.append_assoc, List.append_assoc, List.singleton_append]
    · obtain ⟨column', hpos, hcol, hline, hread⟩ :=
        single_indented line acc hindent hcolumn
      rw [Writing.single, if_neg hbreak, List.append_assoc, List.append_assoc, hread,
        Layout.lineAfter_append, Layout.columnAfter_append, Layout.lineAfter_append,
        Layout.columnAfter_append, ← hcol, ← hline]
      by_cases hspace : c = ' '
      · -- a space is kept in the gap, which is not broken, and what comes next is no line break
        subst hspace
        obtain ⟨hflat, hstill, hmeet⟩ := Gap.isFlat_of_meets_space hc
        have hrec := @ih line (column' + 1) (gap.addBlank ' ') acc (fun _ => Nat.succ_pos _)
          (Gap.keeps_of_isFlat (Gap.isFlat_addBlank hflat ' '))
          (fun d hd => hmeet d (hnextTrailed d hd (by decide))) hchars hled' htrailed'
        rw [if_neg (by decide), List.singleton_append, single_space, ← hstill, hrec,
          Gap.text_addBlank hflat]
        simp
        rfl
      · have hsep := not_isSeparator_of_isPrintable hprintable hbreak hspace
        have hmeet : ∀ d ∈ text.head?, Gap.none.Meets d := fun d _ => trivial
        have hrec := fun column' (hpos : 0 < column') =>
          @ih line column' .none (c :: (gap.text.reverse ++ acc)) (fun _ => hpos) trivial hmeet
            hchars hled' htrailed'
        by_cases hquote : c = '\''
        · -- two quotes stand for one
          subst hquote
          rw [if_pos (by decide), List.cons_append, single_char hsep hpos, if_pos rfl,
            List.singleton_append, List.headD_cons, if_pos rfl, List.tail_cons]
          refine (hrec (column' + 2) (Nat.succ_pos _)).trans ?_
          simp
          rfl
        · rw [if_neg (by simpa using hquote), List.singleton_append, single_char hsep hpos,
            if_neg hquote]
          refine (hrec (column' + 1) (Nat.succ_pos _)).trans ?_
          simp [Layout.lineAfter, Layout.columnAfter, hbreak]
          rfl

/-- **What is written in single quotes is read back.** -/
theorem single?_written {indent : Nat} {text : List Char} (hindent : 0 < indent)
    (hcolumn : 0 < column) (hallows : Writing.allowsSingle text) (hfeed : '\n' ∉ text)
    (hrest : cs.headD endMark ≠ '\'') :
    single? (.place line column (Writing.single indent false text ++ cs)) =
      some (text, .place (Layout.lineAfter line (Writing.single indent false text))
        (Layout.columnAfter column (Writing.single indent false text)) cs) := by
  simp only [Writing.allowsSingle, Bool.and_eq_true, Bool.not_eq_true', List.all_eq_true]
    at hallows
  obtain ⟨⟨hprintable, hled⟩, htrailed⟩ := hallows
  have hchar : ∀ c ∈ text, isPrintable c ∧ c ≠ '\n' := fun c hc =>
    ⟨hprintable c hc, fun h => hfeed (h ▸ hc)⟩
  exact @single_written line column .none [] cs indent text hindent (fun _ => hcolumn) trivial
    (fun _ _ => trivial) hchar hled htrailed hrest

end Quoted

end DrumMachine.Yaml
