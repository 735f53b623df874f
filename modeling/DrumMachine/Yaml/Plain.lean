import DrumMachine.Yaml.Gap
import DrumMachine.Yaml.Layout

/-! # Plain scalars

A plain scalar has no quotes. It ends before a colon that a separator follows, before a comment,
before a document mark, in block context where a line starts left of the margin, and in flow
context before a mark of flow collections. -/

namespace DrumMachine.Yaml

/-- **Where a scalar stands.** -/
structure Context where
  /-- Whether it stands in a flow collection. -/
  inFlow : Bool
  /-- The least column at which content of the innermost block collection may start. -/
  margin : Nat
  deriving DecidableEq, Repr

namespace Plain

/-- **A plain scalar that was read**: its text, whether it was followed by a line break, and what
comes next. -/
structure Reading where
  text : List Char
  broken : Bool
  rest : Layout

/-- Whether a scalar ends after a gap, before the first character of `layout`. -/
def endsAfterGap (context : Context) (layout : Layout) : Bool :=
  (!context.inFlow && layout.head.column < context.margin) || layout.isDocumentMark ||
    layout.peek 0 == '#'

/-- Whether a scalar ends before the first character of `layout` in any case. -/
def endsBefore (context : Context) (layout : Layout) : Bool :=
  layout.peek 0 == endMark || (layout.peek 0 == ':' && isSeparator (layout.peek 1)) ||
    (context.inFlow && isFlowMark (layout.peek 0))

/-- A colon that a mark of flow collections follows, which is refused in flow context. -/
def isStrayColon (context : Context) (layout : Layout) : Bool :=
  context.inFlow && layout.peek 0 == ':' && (layout.peek 1 == '?' || isFlowMark (layout.peek 1))

/-- Reads on after a gap; `acc` is the text so far, last character first. -/
def scan (context : Context) : Gap → (acc : List Char) → Layout → Option Reading
  | gap, acc, [] => some ⟨acc.reverse, gap.isBroken, []⟩
  | gap, acc, cell :: rest =>
    let c := cell.char
    if isBlank c then
      -- a tab cannot stand for indentation
      if gap.isBroken && c == '\t' && cell.column < context.margin then none
      else scan context (gap.addBlank c) acc rest
    else if isBreak c then scan context (gap.addBreak c) acc rest
    else if !gap.isNone && endsAfterGap context (cell :: rest) then
      some ⟨acc.reverse, gap.isBroken, cell :: rest⟩
    else if isStrayColon context (cell :: rest) then none
    else if endsBefore context (cell :: rest) then
      some ⟨acc.reverse, gap.isBroken, cell :: rest⟩
    else scan context .none (c :: (gap.text.reverse ++ acc)) rest

/-- **Reads a plain scalar.** -/
def read? (context : Context) (layout : Layout) : Option Reading := scan context .none [] layout

/-- **Whether a plain scalar can start here.** -/
def starts (context : Context) (layout : Layout) : Bool :=
  let c := layout.peek 0
  if c == '-' then !isBlank (layout.peek 1)
  else if c == '?' || c == ':' then !context.inFlow && !isSeparator (layout.peek 1)
  else !isSeparator c && !isIndicator c

end Plain

end DrumMachine.Yaml
