import DrumMachine.Yaml.Character

/-! # The layout of a text

YAML gives meaning to lines and columns. `Layout.ofText?` notes both beside every character, after
it brought all line ends to one form and dropped a byte order mark at the start. It refuses a text
with characters that no document may hold. -/

namespace DrumMachine.Yaml

/-- **A character and where it stands.** -/
structure Cell where
  char : Char
  line : Nat
  column : Nat
  deriving DecidableEq, Repr

/-- **A text with the places of its characters.** The last cell holds the end mark. -/
abbrev Layout := List Cell

/-- Makes a line feed of every line end that is one or two control characters. -/
def unifyBreaks : List Char → List Char
  | [] => []
  | '\r' :: '\n' :: cs => '\n' :: unifyBreaks cs
  | c :: cs => (if c = '\r' ∨ c = '\u0085' then '\n' else c) :: unifyBreaks cs

/-- Drops the byte order mark at the start of a text. -/
def dropByteOrderMark : List Char → List Char
  | '\ufeff' :: cs => cs
  | cs => cs

namespace Layout

/-- The layout of characters that start at the given place. -/
def place (line column : Nat) : List Char → Layout
  | [] => [⟨endMark, line, column⟩]
  | c :: cs =>
    ⟨c, line, column⟩ :: if isBreak c then place (line + 1) 0 cs else place line (column + 1) cs

/-- **The layout of a text**, if every character may stand in a document. -/
def ofText? (text : String) : Option Layout :=
  if text.toList.all isAllowed then
    some (place 0 0 (unifyBreaks (dropByteOrderMark text.toList)))
  else none

/-- The character `n` places further on. -/
def peek (layout : Layout) (n : Nat) : Char :=
  match layout[n]? with
  | some cell => cell.char
  | none => endMark

/-- The place of the next character. -/
def head (layout : Layout) : Cell := layout.headD ⟨endMark, 0, 0⟩

/-- Whether a document mark, three dashes or three points that stand alone, comes next. -/
def isMark (c : Char) (layout : Layout) : Bool :=
  layout.head.column == 0 && layout.peek 0 == c && layout.peek 1 == c && layout.peek 2 == c &&
    isSeparator (layout.peek 3)

/-- Whether either document mark comes next. -/
def isDocumentMark (layout : Layout) : Bool := layout.isMark '-' || layout.isMark '.'

/-- Drops the blanks that come next. -/
def dropBlanks (layout : Layout) : Layout := layout.dropWhile (isBlank ·.char)

/-- Drops what is left of the line if it is a comment. -/
def dropComment (layout : Layout) : Layout :=
  if layout.peek 0 == '#' then layout.dropWhile (!isLineEnd ·.char) else layout

/-- The characters that come next and are of a class, and what follows them. -/
def takeChars (p : Char → Bool) (layout : Layout) : List Char × Layout :=
  ((layout.takeWhile (p ·.char)).map (·.char), layout.dropWhile (p ·.char))

/-- **Drops the rest of a line**, which may hold no more than blanks and a comment. -/
def finishLine? (layout : Layout) : Option Layout :=
  match layout.dropBlanks.dropComment with
  | [] => some []
  | cell :: rest =>
    if isBreak cell.char then some rest
    else if cell.char == endMark then some (cell :: rest)
    else none

/-- Behind all characters there is an end mark. -/
@[simp] theorem place_nil (line column : Nat) :
    place line column [] = [⟨endMark, line, column⟩] := rfl

end Layout

end DrumMachine.Yaml
