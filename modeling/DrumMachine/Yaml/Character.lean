/-! # Characters of YAML

The classes of characters that the rules of YAML speak of. A text ends with a NUL character, which
no document may hold, so that looking ahead never runs out of characters. -/

namespace DrumMachine.Yaml

/-- The character that stands after the last one of a text. -/
def endMark : Char := '\x00'

/-- A character that ends a line. -/
def isBreak (c : Char) : Bool :=
  c == '\n' || c == '\r' || c == '\u0085' || c == '\u2028' || c == '\u2029'

/-- A blank: a space or a tab. -/
def isBlank (c : Char) : Bool := c == ' ' || c == '\t'

/-- The end of a line or of the text. -/
def isLineEnd (c : Char) : Bool := isBreak c || c == endMark

/-- What separates words: a blank, the end of a line, or the end of the text. -/
def isSeparator (c : Char) : Bool := isBlank c || isLineEnd c

/-- **A character that a document may hold.** -/
def isAllowed (c : Char) : Bool :=
  c == '\t' || c == '\n' || c == '\r' || ('\x20' ≤ c && c ≤ '\x7e') || c == '\u0085' ||
    ('\u00a0' ≤ c && c ≤ '\ufffd') || 0x10000 ≤ c.toNat

/-- **A character that can be written as it is**, outside of double quotes. -/
def isPrintable (c : Char) : Bool :=
  c == '\n' || ('\x20' ≤ c && c ≤ '\x7e') ||
    ('\u00a0' ≤ c && c ≤ '\ufffd' && c != '\ufeff') || 0x10000 ≤ c.toNat

/-- A character of a name: a letter, a digit, a low line or a dash. -/
def isNameChar (c : Char) : Bool := c.isAlphanum || c == '_' || c == '-'

/-- A mark that separates the entries of flow collections. -/
def isFlowMark (c : Char) : Bool :=
  c == ',' || c == '[' || c == ']' || c == '\x7b' || c == '\x7d'

/-- A mark with a meaning of its own at the start of a token, whatever follows it. -/
def isIndicator (c : Char) : Bool :=
  isFlowMark c || c == '#' || c == '&' || c == '*' || c == '!' || c == '|' || c == '>' ||
    c == '\'' || c == '\x22' || c == '%' || c == '@' || c == '\x60'

/-- A character of a tag. -/
def isTagChar (c : Char) : Bool :=
  isNameChar c || [';', '/', '?', ':', '@', '&', '=', '+', '$', '.', '%', '!', '~', '*', '\'', '(',
    ')'].contains c

/-- A character of a tag in angle brackets, or of what a tag handle stands for. -/
def isUriChar (c : Char) : Bool := isTagChar c || c == ',' || c == '[' || c == ']'

/-- What can be written as it is may also be read. -/
theorem isAllowed_of_isPrintable {c : Char} (h : isPrintable c) : isAllowed c := by
  simp only [isPrintable, isAllowed, Bool.or_eq_true, Bool.and_eq_true, decide_eq_true_eq] at *
  rcases h with ((h | h) | ⟨h, -⟩) | h
  · simp [h]
  · simp [h]
  · simp [h]
  · simp [h]

end DrumMachine.Yaml
