import DrumMachine.Proofs.Yaml.Forms
import DrumMachine.Proofs.Yaml.Gaps
import DrumMachine.Proofs.Yaml.Places
import DrumMachine.Yaml.Plain

/-! # Plain scalars that are read back

A text that can stand without quotes is read back up to the place where it ends: at the colon of a
key (`Plain.read?_key`), or at the end of its line, if what follows starts left of the margin
(`Plain.read?_line`). -/

namespace DrumMachine.Yaml.Plain

variable {margin line column : Nat} {gap : Gap} {acc cs : List Char}

/-- A space adds to the gap. -/
theorem scan_space : scan ⟨false, margin⟩ gap acc (.place line column (' ' :: cs)) =
    scan ⟨false, margin⟩ (gap.addBlank ' ') acc (.place line (column + 1) cs) := by
  have hblank : isBlank ' ' := by decide
  have htab : (' ' == '\t') = false := by decide
  rw [Layout.place_cons, scan]
  simp only [hblank, htab, Bool.and_false, Bool.false_and, Bool.false_eq_true, if_true, if_false]
  rfl

/-- A character that does not end the scalar goes on with it. -/
theorem scan_char {c : Char} (hsep : ¬ isSeparator c)
    (hgap : gap ≠ .none → margin ≤ column ∧ 0 < column ∧ c ≠ '#')
    (hcolon : c = ':' → ¬ isSeparator (cs.headD endMark)) :
    scan ⟨false, margin⟩ gap acc (.place line column (c :: cs)) =
      scan ⟨false, margin⟩ .none (c :: (gap.text.reverse ++ acc))
        (.place line (column + 1) cs) := by
  simp only [isSeparator, isLineEnd, Bool.or_eq_true, not_or, Bool.not_eq_true] at hsep
  obtain ⟨hblank, hbreak, hend⟩ := hsep
  -- behind a gap a scalar may end early, before a colon it may end anywhere
  have hgoesOn : (!gap.isNone && endsAfterGap ⟨false, margin⟩ (.place line column (c :: cs))) =
      false := by
    cases hnone : gap.isNone with
    | true => rfl
    | false =>
      obtain ⟨hmargin, hpos, hhash⟩ := hgap (by rintro rfl; cases hnone)
      simp [endsAfterGap, Layout.isDocumentMark_place _ _ hpos, Layout.head_place,
        Layout.peek_zero_place, Nat.not_lt.mpr hmargin, hhash]
  have hstray : isStrayColon ⟨false, margin⟩ (.place line column (c :: cs)) = false := rfl
  have hbefore : endsBefore ⟨false, margin⟩ (.place line column (c :: cs)) = false := by
    rw [endsBefore, Layout.peek_zero_place, Layout.peek_one_place, List.headD_cons, hend]
    by_cases hc : c = ':'
    · rw [Bool.eq_false_iff.mpr (hcolon hc), Bool.and_false, Bool.false_and]
      rfl
    · simp [hc]
  rw [Layout.place_cons_of_not_break hbreak] at hgoesOn hstray hbefore ⊢
  simp only [scan, hblank, hbreak, hgoesOn, hstray, hbefore, Bool.false_eq_true, if_false]

/-- **A text that can stand without quotes goes on to its end.** Its last character is no space, so
there is no gap behind it. -/
theorem scan_written {text : List Char} {separated : Bool} (hgapFlat : gap.IsFlat)
    (hchar : ∀ c ∈ text, isPrintable c ∧ ¬ isBreak c)
    (hmark : Writing.holdsMark separated text = false)
    (hlast : ∀ c ∈ text.getLast?, c ≠ ' ') (hnil : text = [] → gap = .none)
    (hmargin : margin ≤ column + 1)
    (hgap : gap ≠ .none → margin ≤ column ∧ 0 < column ∧ separated) :
    scan ⟨false, margin⟩ gap acc (.place line column (text ++ cs)) =
      scan ⟨false, margin⟩ .none ((acc.reverse ++ gap.text ++ text).reverse)
        (.place line (column + text.length) cs) := by
  -- on the text; `separated` says whether the character before it was a separator
  induction text generalizing gap acc column separated with
  | nil =>
    rw [hnil rfl]
    simp
  | cons c text ih =>
    rw [Writing.holdsMark, Bool.or_eq_false_iff, Bool.or_eq_false_iff, Bool.and_eq_false_iff,
      Bool.and_eq_false_iff] at hmark
    obtain ⟨⟨hcolon, hhash⟩, hmarks⟩ := hmark
    obtain ⟨hprintable, hbreak⟩ := hchar c List.mem_cons_self
    have hchars := fun d hd => hchar d (List.mem_cons_of_mem c hd)
    have hlasts : ∀ d ∈ text.getLast?, d ≠ ' ' := fun d hd => by
      cases text with
      | nil => cases hd
      | cons e text => exact hlast d (by rwa [List.getLast?_cons_cons])
    have hcolumn : margin ≤ column + 1 + 1 := Nat.le_succ_of_le hmargin
    rw [List.cons_append]
    by_cases hspace : c = ' '
    · -- a space goes into the gap, and is no last character
      have hmore : text = [] → gap.addBlank ' ' = .none := by
        rintro rfl
        exact absurd hspace (hlast c rfl)
      rw [hspace, scan_space, ih (Gap.isFlat_addBlank hgapFlat ' ') hchars hmarks hlasts hmore
        hcolumn (fun _ => ⟨hmargin, Nat.succ_pos column, by rw [hspace]; decide⟩),
        Gap.text_addBlank hgapFlat, List.length_cons]
      simp [Nat.add_assoc, Nat.add_comm 1]
    · -- neither a number sign behind a gap nor a colon before one ends the scalar
      have hsep := not_isSeparator_of_isPrintable hprintable hbreak hspace
      have hafter : gap ≠ .none → margin ≤ column ∧ 0 < column ∧ c ≠ '#' := fun hnone => by
        obtain ⟨hle, hpos, hseparated⟩ := hgap hnone
        exact ⟨hle, hpos, by simpa [hseparated] using hhash⟩
      have hnext : c = ':' → ¬ isSeparator ((text ++ cs).headD endMark) := fun hc => by
        have hhead : isSeparator (text.headD endMark) = false := by simpa [hc] using hcolon
        cases text with
        | nil => cases hhead
        | cons d text => exact Bool.eq_false_iff.mp hhead
      rw [scan_char hsep hafter hnext, ih Gap.isFlat_none hchars hmarks hlasts (fun _ => rfl)
        hcolumn (fun h => absurd rfl h), List.length_cons]
      simp [Nat.add_assoc, Nat.add_comm 1]

/-- **A text that can stand without quotes starts a plain scalar.** -/
theorem starts_written {text : List Char} (hallows : Writing.allowsPlain text) (h : text ≠ []) :
    starts ⟨false, margin⟩ (.place line column (text ++ cs)) := by
  obtain ⟨hchar, hfirst, -, hmarked, -⟩ := Writing.of_allowsPlain hallows
  obtain ⟨c, more, rfl⟩ := List.exists_cons_of_ne_nil h
  obtain ⟨hprintable, hbreak⟩ := hchar c List.mem_cons_self
  have hsep := not_isSeparator_of_isPrintable hprintable hbreak (hfirst c rfl)
  have hnext (hc : c = '?' ∨ c = '-' ∨ c = ':') :=
    Writing.not_isSeparator_after_mark hallows hc cs
  rw [Writing.startsMarked, Bool.or_eq_false_iff, Bool.or_eq_false_iff, Bool.or_eq_false_iff]
    at hmarked
  rw [starts, List.cons_append, Layout.peek_zero_place, Layout.peek_one_place, List.headD_cons]
  generalize (more ++ cs).headD endMark = next at hnext ⊢
  by_cases hdash : c = '-'
  · have hblank := hnext (.inr (.inl hdash))
    rw [isSeparator, Bool.or_eq_false_iff] at hblank
    simp [hdash, hblank.1]
  · by_cases hother : c = '?' ∨ c = ':'
    · simp [hdash, hother, hnext (hother.imp_right .inr)]
    · simp [hdash, hother, hsep, hmarked.1.1.1]

/-! ## Where a plain scalar ends -/

/-- A plain scalar ends before the colon of a key. -/
theorem scan_colon (h : isSeparator (cs.headD endMark)) :
    scan ⟨false, margin⟩ .none acc (.place line column (':' :: cs)) =
      some ⟨acc.reverse, false, .place line column (':' :: cs)⟩ := by
  have hends : endsBefore ⟨false, margin⟩ (.place line column (':' :: cs)) = true := by
    rw [endsBefore, Layout.peek_zero_place, Layout.peek_one_place, h]
    rfl
  have hblank : isBlank ':' = false := by decide
  have hbreak : isBreak ':' = false := by decide
  have hstray : isStrayColon ⟨false, margin⟩ (.place line column (':' :: cs)) = false := rfl
  rw [Layout.place_cons] at hends hstray ⊢
  simp only [scan, hblank, hbreak, hstray, hends, Gap.isNone, Bool.not_true, Bool.false_and,
    Bool.false_eq_true, if_true, if_false]
  rfl

/-- A broken gap takes in the indentation of the next line. -/
theorem scan_indent {first : Option Char} {more : List Char} (n : Nat) :
    scan ⟨false, margin⟩ (.breaks first more) acc (.place line column (spaces n ++ cs)) =
      scan ⟨false, margin⟩ (.breaks first more) acc (.place line (column + n) cs) :=
  Layout.pass_spaces fun _ _ _ => scan_space

/-- A plain scalar ends with its line, if what follows starts left of the margin. -/
theorem scan_lineEnd {indent : Nat} (hcs : StartsToken cs) (hindent : indent < margin) :
    scan ⟨false, margin⟩ .none acc (.place line column ('\n' :: spaces indent ++ cs)) =
      some ⟨acc.reverse, true, .place (line + 1) indent cs⟩ := by
  have hbreak : scan ⟨false, margin⟩ .none acc (.place line column ('\n' :: spaces indent ++ cs)) =
      scan ⟨false, margin⟩ (.breaks (some '\n') []) acc
        (.place (line + 1) 0 (spaces indent ++ cs)) :=
    rfl
  have hends : endsAfterGap ⟨false, margin⟩ (.place (line + 1) indent cs) = true := by
    rw [endsAfterGap, Layout.head_place, decide_eq_true hindent]
    rfl
  rw [hbreak, scan_indent, Nat.zero_add]
  obtain ⟨rest, hplace⟩ := Layout.exists_place_eq_cons (line + 1) indent cs
  rw [hplace] at hends ⊢
  rw [scan, if_neg hcs.not_blank, if_neg hcs.not_break, hends]
  rfl

/-! ## Keys and values -/

/-- A text that can stand without quotes goes on to its end. -/
theorem read?_written {text : List Char} (hallows : Writing.allowsPlain text)
    (hmargin : margin ≤ column + 1) :
    read? ⟨false, margin⟩ (.place line column (text ++ cs)) =
      scan ⟨false, margin⟩ .none text.reverse (.place line (column + text.length) cs) := by
  obtain ⟨hchar, -, hlast, -, hmark⟩ := Writing.of_allowsPlain hallows
  exact scan_written Gap.isFlat_none hchar hmark hlast (fun _ => rfl) hmargin
    (fun h => absurd rfl h)

/-- **A key without quotes is read back**, up to its colon. -/
theorem read?_key {text : List Char} (hallows : Writing.allowsPlain text)
    (hmargin : margin ≤ column + 1) (hcs : isSeparator (cs.headD endMark)) :
    read? ⟨false, margin⟩ (.place line column (text ++ ':' :: cs)) =
      some ⟨text, false, .place line (column + text.length) (':' :: cs)⟩ := by
  rw [read?_written hallows hmargin, scan_colon hcs, List.reverse_reverse]

/-- **A value without quotes is read back**, with the end of its line, if what follows starts left
of the margin. -/
theorem read?_line {text : List Char} {indent : Nat} (hallows : Writing.allowsPlain text)
    (hmargin : margin ≤ column + 1) (hcs : StartsToken cs) (hindent : indent < margin) :
    read? ⟨false, margin⟩ (.place line column (text ++ '\n' :: spaces indent ++ cs)) =
      some ⟨text, true, .place (line + 1) indent cs⟩ := by
  rw [List.append_assoc, read?_written hallows hmargin]
  exact (scan_lineEnd hcs hindent).trans (by rw [List.reverse_reverse])

end DrumMachine.Yaml.Plain
