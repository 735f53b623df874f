import DrumMachine.Yaml.Character

/-! # Gaps in scalars

A plain or quoted scalar may go over several lines. Between two of its words then stands a gap:
blanks on one line stay as they are, while the blanks around line breaks are dropped, a single line
feed turns into a space, and of several the first is dropped. Other line breaks are kept. -/

namespace DrumMachine.Yaml

/-- **What stands between two words of a scalar.** -/
inductive Gap where
  /-- Nothing; the next character goes on with the word. -/
  | none
  /-- Blanks on one line. -/
  | blanks (chars : List Char)
  /-- Line breaks: the first one, unless it was escaped, and those after it. -/
  | breaks (first : Option Char) (more : List Char)
  deriving DecidableEq, Repr

namespace Gap

/-- Whether there is a line break in a gap. -/
def isBroken : Gap → Bool
  | breaks _ _ => true
  | _ => false

/-- Whether there is no gap. -/
def isNone : Gap → Bool
  | none => true
  | _ => false

/-- Adds a blank. -/
def addBlank (c : Char) : Gap → Gap
  | none => blanks [c]
  | blanks chars => blanks (chars ++ [c])
  | breaks first more => breaks first more

/-- Adds a line break. -/
def addBreak (c : Char) : Gap → Gap
  | none | blanks _ => breaks (some c) []
  | breaks first more => breaks first (more ++ [c])

/-- **What a gap contributes to the scalar.** -/
def text : Gap → List Char
  | none => []
  | blanks chars => chars
  | breaks (some '\n') [] => [' ']
  | breaks (some '\n') more => more
  | breaks (some c) more => c :: more
  | breaks .none more => more

/-- No gap is no text. -/
@[simp] theorem text_none : none.text = [] := rfl

/-- Blanks stand for themselves. -/
@[simp] theorem text_blanks (chars : List Char) : (blanks chars).text = chars := rfl

end Gap

end DrumMachine.Yaml
