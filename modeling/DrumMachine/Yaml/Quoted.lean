import DrumMachine.Text.Numeral
import DrumMachine.Yaml.Gap
import DrumMachine.Yaml.Layout

/-! # Quoted scalars

Between single quotes a quote is written twice and nothing else is special. Between double quotes a
backslash starts an escape: a short one for common controls, the number of a code point in two,
four or eight hexadecimal digits, or a line end that contributes nothing. -/

namespace DrumMachine.Yaml.Quoted

/-- The character that a short escape stands for. -/
def shortEscape? : Char → Option Char
  | '0' => some '\x00'
  | 'a' => some '\x07'
  | 'b' => some '\x08'
  | 't' => some '\t'
  | '\t' => some '\t'
  | 'n' => some '\n'
  | 'v' => some '\x0b'
  | 'f' => some '\x0c'
  | 'r' => some '\r'
  | 'e' => some '\x1b'
  | ' ' => some ' '
  | '\x22' => some '\x22'
  | '/' => some '/'
  | '\\' => some '\\'
  | 'N' => some '\u0085'
  | '_' => some '\u00a0'
  | 'L' => some '\u2028'
  | 'P' => some '\u2029'
  | _ => none

/-- How many digits follow the letter of a numeric escape. -/
def escapeDigits? : Char → Option Nat
  | 'x' => some 2
  | 'u' => some 4
  | 'U' => some 8
  | _ => none

/-- The character of a code point. -/
def ofCodePoint? (n : Nat) : Option Char :=
  if n.isValidChar then some (Char.ofNat n) else none

/-- Where a reader stands in a quoted scalar. -/
inductive Mode where
  /-- After a word, with the gap read since. -/
  | within (gap : Gap)
  /-- After a backslash. -/
  | escape
  /-- In a numeric escape: how many digits are to come, and the number so far. -/
  | digits (left value : Nat)
  deriving DecidableEq, Repr

/-- Reads on in double quotes; `acc` is the text so far, last character first. -/
def double : Mode → (acc : List Char) → Layout → Option (List Char × Layout)
  | _, _, [] => none
  | .within gap, acc, cell :: rest =>
    let c := cell.char
    if isBlank c then double (.within (gap.addBlank c)) acc rest
    else if isBreak c then double (.within (gap.addBreak c)) acc rest
    else if c == endMark || Layout.isDocumentMark (cell :: rest) then none
    else
      let acc := gap.text.reverse ++ acc
      if c == '\x22' then some (acc.reverse, rest)
      else if c == '\\' then double .escape acc rest
      else double (.within .none) (c :: acc) rest
  | .escape, acc, cell :: rest =>
    if isBreak cell.char then double (.within (.breaks none [])) acc rest
    else
      match shortEscape? cell.char, escapeDigits? cell.char with
      | some c, _ => double (.within .none) (c :: acc) rest
      | none, some n => double (.digits n 0) acc rest
      | none, none => none
  | .digits left value, acc, cell :: rest =>
    match Text.Numeral.digit? 16 cell.char with
    | none => none
    | some digit =>
      let value := value * 16 + digit
      if 1 < left then double (.digits (left - 1) value) acc rest
      else
        match ofCodePoint? value with
        | none => none
        | some c => double (.within .none) (c :: acc) rest

/-- Reads on in single quotes; `acc` is the text so far, last character first. -/
def single : Gap → (acc : List Char) → Layout → Option (List Char × Layout)
  | _, _, [] => none
  | gap, acc, cell :: rest =>
    let c := cell.char
    if isBlank c then single (gap.addBlank c) acc rest
    else if isBreak c then single (gap.addBreak c) acc rest
    else if c == endMark || Layout.isDocumentMark (cell :: rest) then none
    else
      let acc := gap.text.reverse ++ acc
      if c == '\'' then
        match rest with
        | [] => some (acc.reverse, [])
        | next :: after =>
          if next.char == '\'' then single .none ('\'' :: acc) after
          else some (acc.reverse, next :: after)
      else single .none (c :: acc) rest

/-- **Reads a scalar in double quotes** from after the first quote to after the last. -/
def double? (layout : Layout) : Option (List Char × Layout) := double (.within .none) [] layout

/-- **Reads a scalar in single quotes** from after the first quote to after the last. -/
def single? (layout : Layout) : Option (List Char × Layout) := single .none [] layout

end DrumMachine.Yaml.Quoted
