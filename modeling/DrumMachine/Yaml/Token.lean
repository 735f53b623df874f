import DrumMachine.Yaml.Block
import DrumMachine.Yaml.Plain
import DrumMachine.Yaml.Quoted
import DrumMachine.Yaml.Tag

/-! # Tokens

A document is a sequence of tokens. Block collections have no marks of their own: `Scanner` finds
where they start and end by the columns of their entries. A mapping without a key mark is noticed
only at the colon after its first key; the tokens that start it are then put in before that key,
whose place the scanner remembers until the key turns out to be none. -/

namespace DrumMachine.Yaml

/-- How a scalar is written. -/
inductive Style where
  | plain
  | singleQuoted
  | doubleQuoted
  | literal
  | folded
  deriving DecidableEq, Repr

/-- **A token.** -/
inductive Token where
  | directive (directive : Directive)
  | documentStart
  | documentEnd
  | sequenceStart
  | mappingStart
  /-- The end of a block collection. -/
  | blockEnd
  | flowSequenceStart
  | flowSequenceEnd
  | flowMappingStart
  | flowMappingEnd
  | blockEntry
  | flowEntry
  | key
  | value
  | alias (name : String)
  | anchor (name : String)
  | tag (tag : Tag)
  | scalar (style : Style) (text : String)
  deriving DecidableEq, Repr

/-- **A place where a key without a mark may have started.** -/
structure KeyPlace where
  /-- Whether what starts here can be nothing but a key. -/
  required : Bool
  /-- How many tokens there were before it. -/
  number : Nat
  line : Nat
  column : Nat
  deriving DecidableEq, Repr

/-- The most characters between the start of a key without a mark and its colon. -/
def maxKeyLength : Nat := 1024

/-- **The state of a scanner.** -/
structure Scanner where
  rest : Layout
  /-- The tokens so far, last one first. -/
  tokens : List Token := []
  /-- How many tokens there are. -/
  count : Nat := 0
  /-- One more than the column of the innermost block collection; zero if there is none. -/
  margin : Nat := 0
  /-- The margins of the block collections around it, innermost first. -/
  outer : List Nat := []
  /-- The place of a possible key in the innermost flow collection. -/
  place : Option KeyPlace := none
  /-- The places of possible keys around it; there is one for each flow collection. -/
  outerPlaces : List (Option KeyPlace) := []
  /-- Whether a key without a mark may start here. -/
  keyAllowed : Bool := true
  deriving Repr

namespace Scanner

/-- Whether the scanner is in a flow collection. -/
def inFlow (s : Scanner) : Bool := !s.outerPlaces.isEmpty

/-- Adds a token. -/
def emit (token : Token) (s : Scanner) : Scanner :=
  { s with tokens := token :: s.tokens, count := s.count + 1 }

/-- Puts a token in after the first `number` ones. -/
def insertAt (number : Nat) (token : Token) (s : Scanner) : Scanner :=
  { s with tokens := s.tokens.insertIdx (s.count - number) token, count := s.count + 1 }

/-- Goes on after what was read. -/
def resume (rest : Layout) (s : Scanner) : Scanner := { s with rest }

/-- Drops the next `n` characters. -/
def skip (n : Nat) (s : Scanner) : Scanner := { s with rest := s.rest.drop n }

/-- Says whether a key without a mark may start next. -/
def allowKey (flag : Bool) (s : Scanner) : Scanner := { s with keyAllowed := flag }

/-! ## Blanks, comments and line breaks -/

/-- What comes after blanks, comments and line breaks, and whether a key may start there. A tab is
a blank only where no key may start. -/
def skipped (inFlow : Bool) : (inComment keyAllowed : Bool) → Layout → Layout × Bool
  | _, keyAllowed, [] => ([], keyAllowed)
  | inComment, keyAllowed, cell :: rest =>
    let c := cell.char
    if isBreak c then skipped inFlow false (!inFlow || keyAllowed) rest
    else if c == endMark then (cell :: rest, keyAllowed)
    else if inComment then skipped inFlow true keyAllowed rest
    else if c == '#' then skipped inFlow true keyAllowed rest
    else if c == ' ' || (c == '\t' && (inFlow || !keyAllowed)) ||
        (c == '\ufeff' && cell.column == 0) then
      skipped inFlow false keyAllowed rest
    else (cell :: rest, keyAllowed)

/-- Goes on to where the next token starts. -/
def toToken (s : Scanner) : Scanner :=
  let (rest, keyAllowed) := skipped s.inFlow false s.keyAllowed s.rest
  { s with rest, keyAllowed }

/-! ## Block collections -/

/-- Starts a block collection at a column that lies beyond the margin, unless in flow context; its
first token is put in after the first `number` ones. -/
def openBlock (column number : Nat) (token : Token) (s : Scanner) : Scanner :=
  if !s.inFlow && s.margin ≤ column then
    { s with margin := column + 1, outer := s.margin :: s.outer }.insertAt number token
  else s

/-- Ends collections as long as the margin is beyond `limit`: the margin after that, those around
it, and how many ended. -/
def closed (limit : Nat) : (margin : Nat) → (outer : List Nat) → Nat × List Nat × Nat
  | margin, [] => if limit < margin then (0, [], 1) else (margin, [], 0)
  | margin, next :: outer =>
    if limit < margin then
      let (margin, outer, n) := closed limit next outer
      (margin, outer, n + 1)
    else (margin, next :: outer, 0)

/-- Ends the block collections whose margin is beyond `limit`, unless in flow context. -/
def closeBlocks (limit : Nat) (s : Scanner) : Scanner :=
  if s.inFlow then s
  else
    let (margin, outer, n) := closed limit s.margin s.outer
    { s with
      margin, outer, tokens := List.replicate n .blockEnd ++ s.tokens, count := s.count + n }

/-! ## Keys without a mark -/

/-- Forgets a place that can no longer be the start of a key: it is on another line, or too far
back. It is an error if it had to be one. -/
def expire (line column : Nat) : Option KeyPlace → Option (Option KeyPlace)
  | none => some none
  | some place =>
    if place.line < line || place.column + maxKeyLength < column then
      if place.required then none else some none
    else some (some place)

/-- Forgets all places that can no longer be the start of a key. -/
def expirePlaces (s : Scanner) : Option Scanner := do
  let cell := s.rest.head
  let place ← expire cell.line cell.column s.place
  let outerPlaces ← s.outerPlaces.mapM (expire cell.line cell.column)
  pure { s with place, outerPlaces }

/-- Forgets the innermost place, which must not have been the start of a key for certain. -/
def dropPlace (s : Scanner) : Option Scanner :=
  if s.place.any (·.required) then none else some { s with place := none }

/-- Notes that a key may start here, if one may. -/
def savePlace (s : Scanner) : Option Scanner :=
  if s.keyAllowed then do
    let s ← s.dropPlace
    let cell := s.rest.head
    pure { s with place := some ⟨!s.inFlow && s.margin == cell.column + 1, s.count, cell.line,
      cell.column⟩ }
  else some s

/-! ## The kinds of tokens -/

/-- Ends all block collections; then a key may not start before the next line. -/
def leaveBlocks (s : Scanner) : Option Scanner := do
  let s ← (s.closeBlocks 0).dropPlace
  pure (s.allowKey false)

/-- Reads a directive. -/
def directive (s : Scanner) : Option Scanner := do
  let s ← s.leaveBlocks
  let (directive, rest) ← Directive.read? s.rest.tail
  pure ((s.emit (.directive directive)).resume rest)

/-- Reads a document mark. -/
def documentMark (token : Token) (s : Scanner) : Option Scanner := do
  let s ← s.leaveBlocks
  pure ((s.emit token).skip 3)

/-- Reads the start of a flow collection. -/
def flowStart (token : Token) (s : Scanner) : Option Scanner := do
  let s ← s.savePlace
  let s := { s with place := none, outerPlaces := s.place :: s.outerPlaces }
  pure (((s.allowKey true).emit token).skip 1)

/-- Reads the end of a flow collection. -/
def flowEnd (token : Token) (s : Scanner) : Option Scanner := do
  let s ← s.dropPlace
  let s := match s.outerPlaces with
    | [] => s
    | place :: outerPlaces => { s with place, outerPlaces }
  pure (((s.allowKey false).emit token).skip 1)

/-- Reads a comma. -/
def flowEntry (s : Scanner) : Option Scanner := do
  let s ← s.dropPlace
  pure (((s.allowKey true).emit .flowEntry).skip 1)

/-- Starts a block collection here for an entry or a key with a mark, which are allowed only where
a key may start. -/
def openHere (token : Token) (s : Scanner) : Option Scanner :=
  if s.inFlow then some s
  else if s.keyAllowed then some (s.openBlock s.rest.head.column s.count token)
  else none

/-- Reads the mark of an entry of a block sequence. -/
def blockEntry (s : Scanner) : Option Scanner := do
  let s ← s.openHere .sequenceStart
  let s ← s.dropPlace
  pure (((s.allowKey true).emit .blockEntry).skip 1)

/-- Reads the mark of a key. -/
def key (s : Scanner) : Option Scanner := do
  let s ← s.openHere .mappingStart
  let s ← s.dropPlace
  pure (((s.allowKey (!s.inFlow)).emit .key).skip 1)

/-- Reads the mark of a value. If a key without a mark may have started before it, it did. -/
def value (s : Scanner) : Option Scanner :=
  match s.place with
  | some place =>
    -- the mapping may start here as well; its token then goes before that of its first key
    let s := (s.insertAt place.number .key).openBlock place.column place.number .mappingStart
    some ((({ s with place := none }.allowKey false).emit .value).skip 1)
  | none => do
    let s ← s.openHere .mappingStart
    pure (((s.allowKey (!s.inFlow)).emit .value).skip 1)

/-- Reads an alias or an anchor. -/
def named (token : String → Token) (s : Scanner) : Option Scanner := do
  let s ← s.savePlace
  let (name, rest) ← Tag.name? s.rest.tail
  pure (((s.allowKey false).emit (token name)).resume rest)

/-- Reads a tag. -/
def tag (s : Scanner) : Option Scanner := do
  let s ← s.savePlace
  let (tag, rest) ← Tag.read? s.inFlow s.rest
  pure (((s.allowKey false).emit (.tag tag)).resume rest)

/-- Reads a block scalar. -/
def blockScalar (style : Style) (s : Scanner) : Option Scanner := do
  let s ← s.dropPlace
  let (text, rest) ← Block.read? (style == .folded) s.margin s.rest.tail
  pure (((s.allowKey true).emit (.scalar style (String.ofList text))).resume rest)

/-- Reads a quoted scalar. -/
def quotedScalar (style : Style) (read? : Layout → Option (List Char × Layout)) (s : Scanner) :
    Option Scanner := do
  let s ← s.savePlace
  let (text, rest) ← read? s.rest.tail
  pure (((s.allowKey false).emit (.scalar style (String.ofList text))).resume rest)

/-- Reads a plain scalar. After a line break a key may start again. -/
def plainScalar (s : Scanner) : Option Scanner := do
  let s ← s.savePlace
  let reading ← Plain.read? ⟨s.inFlow, s.margin⟩ s.rest
  pure (((s.allowKey reading.broken).emit (.scalar .plain (String.ofList reading.text))).resume
    reading.rest)

/-- **Reads the token that starts here.** -/
def token (s : Scanner) : Option Scanner :=
  let c := s.rest.peek 0
  let separated := isSeparator (s.rest.peek 1)
  if c == '%' && s.rest.head.column == 0 then s.directive
  else if s.rest.isMark '-' then s.documentMark .documentStart
  else if s.rest.isMark '.' then s.documentMark .documentEnd
  else if c == '[' then s.flowStart .flowSequenceStart
  else if c == '\x7b' then s.flowStart .flowMappingStart
  else if c == ']' then s.flowEnd .flowSequenceEnd
  else if c == '\x7d' then s.flowEnd .flowMappingEnd
  else if c == ',' then s.flowEntry
  else if c == '-' && separated then s.blockEntry
  else if c == '?' && (s.inFlow || separated) then s.key
  else if c == ':' && (s.inFlow || separated) then s.value
  else if c == '*' then s.named .alias
  else if c == '&' then s.named .anchor
  else if c == '!' then s.tag
  else if c == '|' && !s.inFlow then s.blockScalar .literal
  else if c == '>' && !s.inFlow then s.blockScalar .folded
  else if c == '\'' then s.quotedScalar .singleQuoted Quoted.single?
  else if c == '\x22' then s.quotedScalar .doubleQuoted Quoted.double?
  else if Plain.starts ⟨s.inFlow, s.margin⟩ s.rest then s.plainScalar
  else none

/-- Goes on to the next token and ends the block collections that it is not part of. -/
def approach (s : Scanner) : Option Scanner := do
  -- a key may not go on after a line break, so old places go before blocks are closed
  let s ← s.toToken.expirePlaces
  pure (s.closeBlocks (s.rest.head.column + 1))

/-- The tokens at the end of the text. -/
def finish (s : Scanner) : Option (List Token) := do
  let s ← s.leaveBlocks
  pure s.tokens.reverse

/-- Reads at most `fuel` further tokens. -/
def run : (fuel : Nat) → Scanner → Option (List Token)
  | 0, _ => none
  | fuel + 1, s => do
    let s ← s.approach
    if s.rest.peek 0 == endMark then s.finish
    else run fuel (← s.token)

end Scanner

/-- **The tokens of a text.** Every token has at least one character, so that there are no more
steps than characters. -/
def Token.ofLayout? (layout : Layout) : Option (List Token) :=
  Scanner.run (layout.length + 1) { rest := layout }

end DrumMachine.Yaml
