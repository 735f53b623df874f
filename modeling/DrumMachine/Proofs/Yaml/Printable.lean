import DrumMachine.Proofs.Yaml.Numbers
import DrumMachine.Proofs.Yaml.Tokens

/-! # What is written is printable

Whatever the characters of its texts are, a value is written in printable characters only, since
others are escaped (`Value.printable_entriesText`). A document may hold all of these. -/

namespace DrumMachine.Yaml

/-- Text of printable characters. -/
def Printable (cs : List Char) : Prop := ∀ c ∈ cs, isPrintable c

namespace Printable

/-- The empty text is printable. -/
theorem nil : Printable [] := nofun

/-- One more printable character. -/
theorem cons {c : Char} {cs : List Char} (hc : isPrintable c) (hcs : Printable cs) :
    Printable (c :: cs) := List.forall_mem_cons.mpr ⟨hc, hcs⟩

/-- Two printable texts one after the other. -/
theorem append {cs ds : List Char} (hcs : Printable cs) (hds : Printable ds) :
    Printable (cs ++ ds) := List.forall_mem_append.mpr ⟨hcs, hds⟩

/-- Spaces are printable. -/
theorem spaces (n : Nat) : Printable (spaces n) := fun c hc => by
  rw [(List.mem_replicate.mp hc).2]
  decide

end Printable

namespace Writing

/-- A printable text stays so in single quotes. -/
theorem printable_single {text : List Char} (h : Printable text) (indent : Nat) (broken : Bool) :
    Printable (single indent broken text) := by
  have hquote : isPrintable '\'' := by decide
  have hindent (broken : Bool) : Printable (if broken then spaces indent else []) := by
    split
    · exact .spaces indent
    · exact .nil
  -- on the text; an indentation comes where a line has just started
  induction text generalizing broken with
  | nil => exact (hindent broken).append (.cons hquote .nil)
  | cons c text ih =>
    obtain ⟨hc, hmore⟩ := List.forall_mem_cons.mp h
    rw [single]
    split
    · exact .cons hc (ih hmore true)
    · refine ((hindent broken).append ?_).append (ih hmore false)
      split
      · exact .cons hquote (.cons hquote .nil)
      · exact .cons hc .nil

/-- A printable text stays so in lines of its own. -/
theorem printable_literal {text : List Char} (h : Printable text) (indent : Nat) (broken : Bool) :
    Printable (literal indent broken text) := by
  induction text generalizing broken with
  | nil => exact .nil
  | cons c text ih =>
    obtain ⟨hc, hmore⟩ := List.forall_mem_cons.mp h
    rw [literal]
    split
    · exact .cons hc (ih hmore true)
    · refine .append ?_ (.cons hc (ih hmore false))
      split
      · exact .spaces indent
      · exact .nil

/-- The hints of a text in lines of its own are printable. -/
theorem printable_hints (text : List Char) : Printable (indentHint text ++ chompHint text) := by
  have hhint : Printable (indentHint text) := by
    rw [indentHint]
    split
    · exact show Printable ['2'] from .cons (by decide) .nil
    · exact .nil
  have hstrip : Printable ['-'] := .cons (by decide) .nil
  have hkeep : Printable ['+'] := .cons (by decide) .nil
  refine hhint.append ?_
  unfold chompHint
  split
  · exact hstrip
  · split_ifs
    · exact hstrip
    · exact hkeep
    · exact .nil

/-- The end of a line is printable. -/
theorem printable_endLine {line : List Char} (h : Printable line) : Printable (endLine line) := by
  obtain ⟨-, -, ending, -, -, hending, hfeeds⟩ := exists_endLine_eq line
  rw [hending]
  refine h.append fun c hc => ?_
  rw [hfeeds c hc]
  decide

/-- **A text is written in printable characters.** -/
theorem printable_text (indent : Nat) (s : String) : Printable (text indent s) := by
  have hquote : Printable ['\x22'] := .cons (by decide) .nil
  rw [text]
  obtain ⟨hform, hallows, -⟩ | ⟨hform, hallows, -⟩ | hform | ⟨hform, hallows, -⟩ := form_cases s
  · rw [hform]
    exact fun c hc => ((of_allowsPlain hallows).1 c hc).1
  · simp only [allowsSingle, Bool.and_eq_true, List.all_eq_true] at hallows
    rw [hform]
    exact .cons (by decide) (printable_single hallows.1.1 indent false)
  · have hescaped : Printable (s.toList.flatMap escape) := fun c hc => by
      obtain ⟨d, -, hd⟩ := List.mem_flatMap.mp hc
      exact (isPrintable_of_mem_escape hd).1
    rw [hform]
    exact (hquote.append hescaped).append hquote
  · simp only [allowsLiteral, Bool.and_eq_true, List.all_eq_true] at hallows
    rw [hform]
    exact (Printable.cons (by decide) (printable_hints s.toList)).append
      (.cons (by decide) (printable_literal hallows.1.1 indent true))

/-- **A key is printable**, whatever its name is. -/
theorem printable_key (indent : Nat) (name : String) : Printable (key indent name) := by
  have hcolon : Printable [':'] := .cons (by decide) .nil
  have hmark : Printable ['?', ' '] := .cons (by decide) (.cons (by decide) .nil)
  have htext := printable_text (indent + indentStep) name
  rw [key]
  split
  · exact htext.append hcolon
  · exact ((hmark.append (printable_endLine htext)).append (.spaces indent)).append hcolon

end Writing

namespace Value

/-- A number is printable. -/
theorem printable_number (indent n : Nat) : Printable (after indent (.number n)) := by
  have hdigits : Printable (toString n).toList := fun c hc =>
    (isDigit_cases (isDigit_of_mem_toString hc)).1.1
  rw [after]
  exact (Printable.cons (by decide) hdigits).append (.cons (by decide) .nil)

mutual

/-- **A value is written in printable characters.** -/
theorem printable_after (indent : Nat) : ∀ value : Value, Printable (value.after indent)
  | .number n => printable_number indent n
  | .text s => by
    rw [after]
    exact .cons (by decide) (Writing.printable_endLine (Writing.printable_text _ s))
  | .mapping [] => by
    rw [after]
    exact .cons (by decide) (.cons (by decide) (.cons (by decide) (.cons (by decide) .nil)))
  | .mapping (entry :: entries) => by
    rw [after]
    exact .cons (by decide) (printable_entriesText _ (entry :: entries))

/-- **The entries of a mapping are printable.** -/
theorem printable_entriesText (indent : Nat) :
    ∀ entries : List (String × Value), Printable (entriesText indent entries)
  | [] => .nil
  | (name, value) :: entries => by
    rw [entriesText]
    exact (((Printable.spaces indent).append (Writing.printable_key indent name)).append
      (printable_after indent value)).append (printable_entriesText indent entries)

end

end Value

end DrumMachine.Yaml
