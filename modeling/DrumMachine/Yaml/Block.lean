import DrumMachine.Yaml.Layout

/-! # Block scalars

A block scalar is a header and then lines that are indented further than what surrounds them. A
literal one keeps its line breaks, a folded one joins lines that are not led by blanks. The header
may give the indentation, and says what becomes of the line breaks at the end: one is kept, none
is, or all are. -/

namespace DrumMachine.Yaml.Block

/-- What becomes of the line breaks at the end. -/
inductive Chomping where
  | strip
  | clip
  | keep
  deriving DecidableEq, Repr

/-- **The header of a block scalar.** -/
structure Header where
  chomping : Chomping
  /-- How much further than its surroundings the scalar is indented, if that is given. -/
  increment : Option Nat
  deriving DecidableEq, Repr

/-- The chomping that a mark stands for. -/
def chomping? : Char → Option Chomping
  | '+' => some .keep
  | '-' => some .strip
  | _ => none

/-- Reads the indentation of a header: nothing, or a digit, which must not be zero. -/
def increment? (layout : Layout) : Option (Option Nat × Layout) :=
  let c := layout.peek 0
  if c.isDigit then if c == '0' then none else some (some (c.toNat - '0'.toNat), layout.tail)
  else some (none, layout)

/-- **Reads a header**: the mark of the chomping and the indentation, in either order. -/
def header? (layout : Layout) : Option (Header × Layout) :=
  match chomping? (layout.peek 0) with
  | some chomping =>
    match increment? layout.tail with
    | none => none
    | some (increment, rest) => some (⟨chomping, increment⟩, rest)
  | none =>
    match increment? layout with
    | none => none
    | some (none, rest) => some (⟨.clip, none⟩, rest)
    | some (some increment, rest) =>
      match chomping? (rest.peek 0) with
      | some chomping => some (⟨chomping, some increment⟩, rest.tail)
      | none => some (⟨.clip, some increment⟩, rest)

/-- **Measures the indentation** by the blank lines and the first line after them: the widest of
them, but at least `least`. Gives the line breaks passed on the way. -/
def measure (least : Nat) : (breaks : List Char) → Layout → Option (Nat × List Char × Layout)
  | breaks, [] => some (least, breaks, [])
  | breaks, cell :: rest =>
    if cell.char == ' ' then measure least breaks rest
    else if cell.char == '\t' then none
    else if isBreak cell.char then measure (max least cell.column) (breaks ++ [cell.char]) rest
    else some (max least cell.column, breaks, cell :: rest)

/-- **The lines of a block scalar, as far as they are read.** -/
structure Lines where
  /-- The text up to the last line, last character first. -/
  text : List Char
  /-- The break after the last line. -/
  lastBreak : List Char
  /-- The breaks of the blank lines after it. -/
  breaks : List Char
  /-- Whether the last line starts with a blank. -/
  ledByBlank : Bool
  deriving DecidableEq, Repr

namespace Lines

/-- Starts a line with the character `c`. A folded scalar joins it to the line before if neither is
led by a blank. -/
def start (folded : Bool) (c : Char) (lines : Lines) : Lines :=
  let joined :=
    if folded && lines.lastBreak == ['\n'] && !lines.ledByBlank && !isBlank c then
      if lines.breaks.isEmpty then [' '] else []
    else lines.lastBreak
  ⟨c :: (lines.breaks.reverse ++ joined.reverse ++ lines.text), [], [], isBlank c⟩

/-- The whole text. -/
def chomped (chomping : Chomping) (lines : Lines) : List Char :=
  match chomping with
  | .strip => lines.text.reverse
  | .clip => lines.text.reverse ++ lines.lastBreak
  | .keep => lines.text.reverse ++ lines.lastBreak ++ lines.breaks

end Lines

/-- Reads the lines that are indented by `indent`; `inLine` says that a line has started. -/
def scan (folded : Bool) (indent : Nat) : (inLine : Bool) → Lines → Layout →
    Option (Lines × Layout)
  | _, lines, [] => some (lines, [])
  | true, lines, cell :: rest =>
    let c := cell.char
    if isBreak c then scan folded indent false { lines with lastBreak := [c] } rest
    else if c == endMark then some (lines, cell :: rest)
    else scan folded indent true { lines with text := c :: lines.text } rest
  | false, lines, cell :: rest =>
    let c := cell.char
    if isBreak c then scan folded indent false { lines with breaks := lines.breaks ++ [c] } rest
    else if cell.column < indent && c == ' ' then scan folded indent false lines rest
    -- a tab cannot stand for indentation
    else if cell.column < indent && c == '\t' then none
    else if cell.column == indent && c != endMark then
      scan folded indent true (lines.start folded c) rest
    else some (lines, cell :: rest)

/-- **Reads a block scalar** from after its mark. -/
def read? (folded : Bool) (margin : Nat) (layout : Layout) : Option (List Char × Layout) := do
  let (header, layout) ← header? layout
  let layout ← layout.finishLine?
  let (indent, breaks, layout) ←
    match header.increment with
    | some increment => some (margin - 1 + increment, [], layout)
    | none => measure (max margin 1) [] layout
  let (lines, layout) ← scan folded indent false ⟨[], [], breaks, false⟩ layout
  pure (lines.chomped header.chomping, layout)

end DrumMachine.Yaml.Block
