import DrumMachine.Yaml.Gap

/-! # What a gap keeps

A gap on one line contributes its blanks as they are. A gap that holds line breaks contributes all
of them, unless the first is a line feed or was escaped; but it drops the blanks around them. -/

namespace DrumMachine.Yaml.Gap

/-- A gap on one line. -/
def IsFlat : Gap → Prop
  | breaks _ _ => False
  | _ => True

/-- Where there is no gap, there is no break either. -/
theorem isFlat_none : none.IsFlat := trivial

/-- A blank starts no line. -/
theorem isFlat_addBlank {gap : Gap} (h : gap.IsFlat) (c : Char) : (gap.addBlank c).IsFlat := by
  cases gap with
  | none => trivial
  | blanks chars => trivial
  | breaks first more => exact h

/-- On one line a blank is kept. -/
theorem text_addBlank {gap : Gap} (h : gap.IsFlat) (c : Char) :
    (gap.addBlank c).text = gap.text ++ [c] := by
  cases gap with
  | none => rfl
  | blanks chars => rfl
  | breaks first more => exact False.elim h

/-- **A gap that keeps its line breaks**: the first one is neither escaped nor a line feed. -/
def Keeps : Gap → Prop
  | breaks first _ => ∃ b, first = some b ∧ b ≠ '\n'
  | _ => True

/-- Whether nothing is lost if a character comes directly behind a gap. -/
def Meets (c : Char) : Gap → Prop
  | none => True
  | blanks _ => ¬ isBreak c
  | breaks _ _ => c ≠ ' '

/-- A gap of breaks other than a line feed is kept as it is. -/
theorem text_breaks {b : Char} (h : b ≠ '\n') (more : List Char) :
    (breaks (some b) more).text = b :: more := by
  cases more <;> simp [text, h]

/-- **A line break that meets a gap is kept.** -/
theorem keeps_addBreak {gap : Gap} {c : Char} (hgap : gap.Keeps) (hmeets : gap.Meets c)
    (hbreak : isBreak c) (hfeed : c ≠ '\n') :
    (gap.addBreak c).Keeps ∧ (gap.addBreak c).text = gap.text ++ [c] := by
  cases gap with
  | none => exact ⟨⟨c, rfl, hfeed⟩, text_breaks hfeed []⟩
  | blanks chars => exact absurd hbreak hmeets
  | breaks first more =>
    obtain ⟨b, rfl, hb⟩ := hgap
    refine ⟨⟨b, rfl, hb⟩, ?_⟩
    rw [addBreak, text_breaks hb, text_breaks hb, List.cons_append]

/-- **A space that meets a gap** makes it longer on the same line. -/
theorem isFlat_of_meets_space {gap : Gap} (h : gap.Meets ' ') : gap.IsFlat ∧
    (gap.addBlank ' ').isBroken = false ∧ ∀ d, ¬ isBreak d → (gap.addBlank ' ').Meets d := by
  cases gap with
  | none => exact ⟨trivial, rfl, fun d hd => hd⟩
  | blanks chars => exact ⟨trivial, rfl, fun d hd => hd⟩
  | breaks first more => exact absurd rfl h

/-- On one line there is no break to lose. -/
theorem keeps_of_isFlat {gap : Gap} (h : gap.IsFlat) : gap.Keeps := by
  cases gap with
  | none => trivial
  | blanks chars => trivial
  | breaks first more => exact False.elim h

end DrumMachine.Yaml.Gap
