import DrumMachine.Proofs.Yaml.Literals
import DrumMachine.Proofs.Yaml.Places
import DrumMachine.Yaml.Token

/-! # How texts are written

The form of a text says which characters it holds (`Writing.form_cases`), what lines it is written
in (`Writing.endLine_text`), and that these start a token (`Writing.startsToken_text`). -/

namespace DrumMachine.Yaml

namespace Writing

/-- The style of the scalar that a text is written as. -/
def style (text : String) : Style :=
  match form text with
  | .plain => .plain
  | .single => .singleQuoted
  | .double => .doubleQuoted
  | .literal => .literal

/-- **What the form of a text says about it.** -/
theorem form_cases (s : String) :
    (form s = .plain ∧ allowsPlain s.toList ∧ s.toList ≠ [] ∧ standsForElse s = false) ∨
    (form s = .single ∧ allowsSingle s.toList ∧ '\n' ∉ s.toList) ∨
    form s = .double ∨
    form s = .literal ∧ allowsLiteral s.toList ∧ '\n' ∈ s.toList := by
  rw [form]
  split_ifs with hfeed hliteral hplain hsingle
  · exact .inr (.inr (.inr ⟨rfl, hliteral, by simpa using hfeed⟩))
  · exact .inr (.inr (.inl rfl))
  · rw [Bool.and_eq_true, Bool.not_eq_true'] at hplain
    refine .inl ⟨rfl, hplain.2, fun hnil => ?_, hplain.1⟩
    -- the empty text stands for nothing
    rw [String.toList_eq_nil_iff] at hnil
    subst hnil
    exact absurd hplain.1 (by decide)
  · exact .inr (.inl ⟨rfl, hsingle, by simpa using hfeed⟩)
  · exact .inr (.inr (.inl rfl))

/-- **What it takes to stand without quotes**: printable characters on one line with no spaces
around them, and no marks. -/
theorem of_allowsPlain {text : List Char} (h : allowsPlain text) :
    (∀ c ∈ text, isPrintable c ∧ ¬ isBreak c) ∧ (∀ c ∈ text.head?, c ≠ ' ') ∧
      (∀ c ∈ text.getLast?, c ≠ ' ') ∧ startsMarked text = false ∧ holdsMark true text = false := by
  simp only [allowsPlain, Bool.and_eq_true, Bool.not_eq_true', List.all_eq_true,
    Option.any_eq_false] at h
  obtain ⟨⟨⟨⟨hchar, hfirst⟩, hlast⟩, hstarts⟩, hholds⟩ := h
  refine ⟨fun c hc => by simpa using hchar c hc, ?_, ?_, hstarts, hholds⟩
  · rintro _ hc rfl
    cases hfirst _ hc
  · rintro _ hc rfl
    cases hlast _ hc

/-- Where a text without quotes starts with what could be a mark, no separator follows. -/
theorem not_isSeparator_after_mark {c : Char} {text : List Char} (h : allowsPlain (c :: text))
    (hc : c = '?' ∨ c = '-' ∨ c = ':') (cs : List Char) :
    isSeparator ((text ++ cs).headD endMark) = false := by
  obtain ⟨-, -, -, hstarts, hholds⟩ := of_allowsPlain h
  rw [startsMarked, Bool.or_eq_false_iff, Bool.or_eq_false_iff, Bool.or_eq_false_iff] at hstarts
  rw [holdsMark, Bool.or_eq_false_iff, Bool.or_eq_false_iff] at hholds
  have hhead : isSeparator (text.headD endMark) = false := by
    rcases hc with rfl | rfl | rfl <;> simp_all
  cases text with
  | nil => cases hhead
  | cons d text => exact hhead

/-- A text in single quotes ends with its quote. -/
theorem getLast?_single (indent : Nat) (broken : Bool) (text : List Char) :
    (single indent broken text).getLast? = some '\'' := by
  induction text generalizing broken with
  | nil => rw [single, List.getLast?_concat]
  | cons c text ih =>
    rw [single]
    split
    · rw [List.getLast?_cons, ih]; rfl
    · rw [List.getLast?_append, ih]; rfl

/-- A line that ends with no break is ended by a line feed. -/
theorem endLine_of_getLast? {line : List Char} {c : Char} (h : line.getLast? = some c)
    (hc : ¬ isBreak c) : endLine line = line ++ ['\n'] := by
  rw [endLine, h, Option.any_some, if_neg hc]

/-- A text without line breaks is ended by a line feed. -/
theorem endLine_of_not_break {line : List Char} (h : ∀ c ∈ line, ¬ isBreak c) :
    endLine line = line ++ ['\n'] := by
  rw [endLine, if_neg]
  intro hlast
  obtain ⟨c, hc, hbreak⟩ := (Option.any_eq_true _ _).mp hlast
  exact h c (List.mem_of_getLast? hc) hbreak

/-- **The lines that a text is written in**, with the end of the last one. -/
theorem endLine_text (indent : Nat) (s : String) :
    endLine (text indent s) =
      match form s with
      | .plain => s.toList ++ ['\n']
      | .single => '\'' :: (single indent false s.toList ++ ['\n'])
      | .double => '\x22' :: (s.toList.flatMap escape ++ ['\x22', '\n'])
      | .literal => '|' :: (indentHint s.toList ++ chompHint s.toList ++
          '\n' :: literal indent true (endLine s.toList)) := by
  obtain ⟨hform, hallows, -⟩ | ⟨hform, -⟩ | hform | ⟨hform, -, hfeed⟩ := form_cases s
  · rw [text, hform]
    exact endLine_of_not_break fun c hc => ((of_allowsPlain hallows).1 c hc).2
  · rw [text, hform]
    refine endLine_of_getLast? (c := '\'') ?_ (by decide)
    rw [List.getLast?_cons, getLast?_single]
    rfl
  · rw [text, hform]
    refine (endLine_of_getLast? (c := '\x22') List.getLast?_concat (by decide)).trans ?_
    simp
  · rw [text, hform]
    have hlines := endLine_literal (List.ne_nil_of_mem hfeed)
      ('|' :: indentHint s.toList ++ chompHint s.toList ++ ['\n']) indent true
    simpa using hlines

/-- A text that can stand without quotes starts a token. -/
theorem startsToken_plain {text cs : List Char} (hallows : allowsPlain text) (h : text ≠ []) :
    StartsToken (text ++ cs) ∧ (text ++ cs).headD endMark ≠ endMark := by
  obtain ⟨hchar, hfirst, -, hmarked, -⟩ := of_allowsPlain hallows
  obtain ⟨c, more, rfl⟩ := List.exists_cons_of_ne_nil h
  obtain ⟨hprintable, hbreak⟩ := hchar c List.mem_cons_self
  obtain ⟨hend, htab, -, -, hmark⟩ := ne_of_isPrintable hprintable
  have hcomment : c ≠ '#' := by
    rintro rfl
    cases hmarked
  exact ⟨⟨by simp [isBlank, hfirst c rfl, htab], hbreak, hcomment, hmark⟩, hend⟩

/-- **A text starts a token**, however it is written. -/
theorem startsToken_text (indent : Nat) (s : String) (cs : List Char) :
    text indent s ≠ [] ∧ StartsToken (text indent s ++ cs) ∧
      (text indent s ++ cs).headD endMark ≠ endMark := by
  rw [text]
  obtain ⟨hform, hallows, hne, -⟩ | ⟨hform, -⟩ | hform | ⟨hform, -⟩ := form_cases s
  · rw [hform]
    exact ⟨hne, startsToken_plain hallows hne⟩
  · rw [hform]
    exact ⟨List.cons_ne_nil _ _, startsToken_of_range (by decide) (by decide) (by decide) _,
      show '\'' ≠ endMark by decide⟩
  · rw [hform]
    exact ⟨List.cons_ne_nil _ _, startsToken_of_range (by decide) (by decide) (by decide) _,
      show '\x22' ≠ endMark by decide⟩
  · rw [hform]
    exact ⟨List.cons_ne_nil _ _, startsToken_of_range (by decide) (by decide) (by decide) _,
      show '|' ≠ endMark by decide⟩

/-- With the end of its line too, a written text starts a token. -/
theorem startsToken_endLine_text (indent : Nat) (s : String) (cs : List Char) :
    StartsToken (endLine (text indent s) ++ cs) := by
  obtain ⟨-, -, ending, -, -, hending, -⟩ := exists_endLine_eq (text indent s)
  rw [hending, List.append_assoc]
  exact (startsToken_text indent s (ending ++ cs)).2.1

end Writing

end DrumMachine.Yaml
