import DrumMachine.Yaml.Layout
import DrumMachine.Yaml.Writing

/-! # Placed characters

A text is read from its layout, so what readers see is said here in terms of the characters and of
the place where they start. Readers take characters off the front; what they leave is the rest at
the place behind those characters (`Layout.lineAfter`, `Layout.columnAfter`). The layout of a text
of printable characters holds just these characters (`Layout.ofText?_of_printable`). -/

namespace DrumMachine.Yaml

namespace Layout

/-- The line behind characters. -/
def lineAfter : (line : Nat) → List Char → Nat
  | line, [] => line
  | line, c :: cs => lineAfter (if isBreak c then line + 1 else line) cs

/-- The column behind characters. -/
def columnAfter : (column : Nat) → List Char → Nat
  | column, [] => column
  | column, c :: cs => columnAfter (if isBreak c then 0 else column + 1) cs

variable {line column : Nat} {c : Char} {cs ds : List Char}

/-- The first character and those behind it. -/
theorem place_cons : place line column (c :: cs) =
    ⟨c, line, column⟩ :: place (lineAfter line [c]) (columnAfter column [c]) cs := by
  rw [place, lineAfter, lineAfter, columnAfter, columnAfter]
  split <;> rfl

/-- A character that is no line break is followed by one on the same line. -/
theorem place_cons_of_not_break (h : isBreak c = false) :
    place line column (c :: cs) = ⟨c, line, column⟩ :: place line (column + 1) cs := by
  rw [place, h]
  rfl

/-- Lines are counted one part after the other. -/
theorem lineAfter_append : lineAfter line (cs ++ ds) = lineAfter (lineAfter line cs) ds := by
  induction cs generalizing line with
  | nil => rfl
  | cons c cs ih => exact ih

/-- Columns are counted one part after the other. -/
theorem columnAfter_append :
    columnAfter column (cs ++ ds) = columnAfter (columnAfter column cs) ds := by
  induction cs generalizing column with
  | nil => rfl
  | cons c cs ih => exact ih

/-- A text never leads to an earlier line. -/
theorem le_lineAfter : line ≤ lineAfter line cs := by
  induction cs generalizing line with
  | nil => exact Nat.le_refl _
  | cons c cs ih =>
    refine Nat.le_trans ?_ ih
    split <;> omega

/-- Without breaks the line stays the same. -/
theorem lineAfter_of_not_break (h : ∀ c ∈ cs, ¬ isBreak c) : lineAfter line cs = line := by
  induction cs with
  | nil => rfl
  | cons c cs ih =>
    rw [lineAfter, if_neg (h c List.mem_cons_self), ih fun d hd => h d (List.mem_cons_of_mem c hd)]

/-- Without breaks every character is a column. -/
theorem columnAfter_of_not_break (h : ∀ c ∈ cs, ¬ isBreak c) :
    columnAfter column cs = column + cs.length := by
  induction cs generalizing column with
  | nil => rfl
  | cons c cs ih =>
    rw [columnAfter, if_neg (h c List.mem_cons_self),
      ih fun d hd => h d (List.mem_cons_of_mem c hd), List.length_cons]
    omega

/-- Spaces stay on their line. -/
theorem lineAfter_spaces (n : Nat) : lineAfter line (spaces n) = line := by
  refine lineAfter_of_not_break fun c hc => ?_
  rw [(List.mem_replicate.mp hc).2]
  decide

/-- Every space is a column. -/
theorem columnAfter_spaces (n : Nat) : columnAfter column (spaces n) = column + n := by
  rw [columnAfter_of_not_break, spaces, List.length_replicate]
  intro c hc
  rw [(List.mem_replicate.mp hc).2]
  decide

/-- **What passes over a space passes over spaces**, as far as it does so. -/
theorem pass_spaces {α : Type} {f : Layout → α} {n : Nat}
    (h : ∀ place < column + n, ∀ ds,
      f (.place line place (' ' :: ds)) = f (.place line (place + 1) ds)) :
    f (.place line column (spaces n ++ cs)) = f (.place line (column + n) cs) := by
  induction n generalizing column with
  | zero => rfl
  | succ n ih =>
    rw [spaces, List.replicate_succ, List.cons_append, h column (by omega)]
    refine (ih fun place hplace => h place (by omega)).trans ?_
    rw [Nat.add_assoc, Nat.add_comm 1]

/-! ## What comes next -/

/-- A place for every character, and one for the end. -/
theorem length_place : (place line column cs).length = cs.length + 1 := by
  induction cs generalizing line column with
  | nil => rfl
  | cons c cs ih => rw [place_cons, List.length_cons, ih, List.length_cons]

/-- Looking ahead finds the characters, and the end mark behind them. -/
theorem peek_place (n : Nat) : (place line column cs).peek n = cs.getD n endMark := by
  induction cs generalizing line column n with
  | nil =>
    rw [place_nil, List.getD_nil, peek]
    cases n with
    | zero => rfl
    | succ n => rw [List.getElem?_eq_none (by simp)]
  | cons c cs ih =>
    rw [place_cons]
    cases n with
    | zero => rfl
    | succ n => exact ih n

/-- The next character of a text that is laid out. -/
theorem peek_zero_place : (place line column cs).peek 0 = cs.headD endMark := by
  rw [peek_place]
  cases cs <;> rfl

/-- The character after the next one. -/
theorem peek_one_place : (place line column (c :: cs)).peek 1 = cs.headD endMark := by
  rw [peek_place]
  cases cs <;> rfl

/-- There is always a first cell, be it that of the end mark. -/
theorem exists_place_eq_cons (line column : Nat) (cs : List Char) : ∃ rest, place line column cs =
    ⟨cs.headD endMark, line, column⟩ :: rest := by
  cases cs with
  | nil => exact ⟨[], rfl⟩
  | cons c cs => exact ⟨_, place_cons⟩

/-- The first place of a text that is laid out. -/
theorem head_place : (place line column cs).head = ⟨cs.headD endMark, line, column⟩ := by
  obtain ⟨rest, h⟩ := exists_place_eq_cons line column cs
  rw [h, head, List.headD_cons]

/-- Document marks stand at the start of a line. -/
theorem isMark_place (h : 0 < column) : (place line column cs).isMark c = false := by
  have hne : (column == 0) = false := by
    rw [beq_eq_false_iff_ne]
    omega
  simp only [isMark, head_place, hne, Bool.false_and]

/-- Behind the first column no document starts or ends. -/
theorem isDocumentMark_place (line : Nat) (cs : List Char) (h : 0 < column) :
    (place line column cs).isDocumentMark = false := by
  rw [isDocumentMark, isMark_place h, isMark_place h, Bool.or_false]

end Layout

/-- **The start of a token, or the end of the text**: nothing that is passed over before a token. -/
structure StartsToken (cs : List Char) : Prop where
  not_blank : ¬ isBlank (cs.headD endMark)
  not_break : ¬ isBreak (cs.headD endMark)
  not_comment : cs.headD endMark ≠ '#'
  not_byteOrderMark : cs.headD endMark ≠ '\ufeff'

/-! ## Printable characters -/

/-- **Characters that may stand in a document, and are not changed when it is read.** -/
theorem ne_of_isPrintable {c : Char} (h : isPrintable c) :
    c ≠ endMark ∧ c ≠ '\t' ∧ c ≠ '\r' ∧ c ≠ '\u0085' ∧ c ≠ '\ufeff' := by
  refine ⟨?_, ?_, ?_, ?_, ?_⟩ <;> (rintro rfl; revert h; decide)

/-- What is printable goes on with its word, unless it is a space or ends the line. -/
theorem not_isSeparator_of_isPrintable {c : Char} (h : isPrintable c) (hbreak : ¬ isBreak c)
    (hspace : c ≠ ' ') : ¬ isSeparator c := by
  obtain ⟨hend, htab, -⟩ := ne_of_isPrintable h
  simp [isSeparator, isLineEnd, isBlank, hbreak, hspace, hend, htab]

/-- What is visible in ASCII, and the space, is printable and ends no line. -/
theorem isPrintable_of_range {c : Char} (hlow : '\x20' ≤ c) (hhigh : c ≤ '\x7e') :
    isPrintable c ∧ ¬ isBreak c := by
  refine ⟨by simp [isPrintable, hlow, hhigh], fun hbreak => ?_⟩
  simp only [isBreak, Bool.or_eq_true, beq_iff_eq, or_assoc] at hbreak
  obtain rfl | rfl | rfl | rfl | rfl := hbreak <;> (revert hlow hhigh; decide)

/-- Any visible character of ASCII starts a token, unless it starts a comment. -/
theorem startsToken_of_range {c : Char} (hlow : '\x21' ≤ c) (hhigh : c ≤ '\x7e')
    (hcomment : c ≠ '#') (cs : List Char) : StartsToken (c :: cs) := by
  obtain ⟨hprintable, hbreak⟩ := isPrintable_of_range (Char.le_trans (by decide) hlow) hhigh
  obtain ⟨-, htab, -, -, hmark⟩ := ne_of_isPrintable hprintable
  have hspace : c ≠ ' ' := by
    rintro rfl
    revert hlow
    decide
  exact ⟨by simp [isBlank, hspace, htab], hbreak, hcomment, hmark⟩

/-- A printable text has no breaks to unify. -/
theorem unifyBreaks_of_printable {cs : List Char} (h : ∀ c ∈ cs, isPrintable c) :
    unifyBreaks cs = cs := by
  induction cs with
  | nil => rfl
  | cons c cs ih =>
    obtain ⟨-, -, hreturn, hnext, -⟩ := ne_of_isPrintable (h c List.mem_cons_self)
    rw [unifyBreaks, if_neg (by simp [hreturn, hnext]),
      ih fun d hd => h d (List.mem_cons_of_mem c hd)]
    rintro cs rfl
    exact absurd rfl hreturn

/-- A printable text starts with no byte order mark. -/
theorem dropByteOrderMark_of_printable {cs : List Char} (h : ∀ c ∈ cs, isPrintable c) :
    dropByteOrderMark cs = cs := by
  unfold dropByteOrderMark
  split
  · exact absurd rfl (ne_of_isPrintable (h _ List.mem_cons_self)).2.2.2.2
  · rfl

/-- **The layout of printable characters** holds these characters, from the start of the first line
on. -/
theorem Layout.ofText?_of_printable {cs : List Char} (h : ∀ c ∈ cs, isPrintable c) :
    Layout.ofText? (String.ofList cs) = some (Layout.place 0 0 cs) := by
  have hallowed : cs.all isAllowed := List.all_eq_true.mpr fun c hc =>
    isAllowed_of_isPrintable (h c hc)
  rw [Layout.ofText?, String.toList_ofList, if_pos hallowed, dropByteOrderMark_of_printable h,
    unifyBreaks_of_printable h]

end DrumMachine.Yaml
