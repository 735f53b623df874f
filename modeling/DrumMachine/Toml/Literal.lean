import DrumMachine.Text.Numeral

/-! # Strings of TOML

Strings stand between single or double quotes, or between three of them, and then may go over
several lines. Double quotes know escapes, single ones do not. Up to two quotes may stand right
before the three that end a string; they are part of it. -/

namespace DrumMachine.Toml

/-- A space or a tab. -/
def isBlank (c : Char) : Bool := c == ' ' || c == '\t'

/-- A character that may stand in comments, and in strings if it is neither quote nor backslash. -/
def isTextChar (c : Char) : Bool := c == '\t' || ('\x20' ≤ c && c != '\x7f')

namespace Literal

open Text

/-- The character that a short escape stands for. -/
def shortEscape? : Char → Option Char
  | 'b' => some '\x08'
  | 't' => some '\t'
  | 'n' => some '\n'
  | 'f' => some '\x0c'
  | 'r' => some '\r'
  | '\x22' => some '\x22'
  | '\\' => some '\\'
  | _ => none

/-- How many digits follow the letter of a numeric escape. -/
def escapeDigits? : Char → Option Nat
  | 'u' => some 4
  | 'U' => some 8
  | _ => none

/-- Where a reader stands in a string between double quotes. -/
inductive Mode where
  | within
  /-- After a backslash. -/
  | escape
  /-- After a backslash and blanks, before the end of the line. -/
  | escapedBlanks
  /-- After an escaped line end, whose following blanks and line ends are dropped. -/
  | trim
  /-- In a numeric escape: how many digits are to come, and the number so far. -/
  | digits (left value : Nat)
  deriving DecidableEq, Repr

/-- Takes up to two of the quote `q` onto a text that has ended, last character first. -/
def trailingQuotes (q : Char) (acc : List Char) : List Char → List Char × List Char
  | a :: b :: rest =>
    if a == q && b == q then ((q :: q :: acc).reverse, rest)
    else if a == q then ((q :: acc).reverse, b :: rest)
    else (acc.reverse, a :: b :: rest)
  | [a] => if a == q then ((q :: acc).reverse, []) else (acc.reverse, [a])
  | [] => (acc.reverse, [])

/-- Whether three of the quote `q` come next. -/
def isTriple (q : Char) : List Char → Bool
  | a :: b :: c :: _ => a == q && b == q && c == q
  | _ => false

/-- Reads on between double quotes; `acc` is the text so far, last character first. -/
def double (multi : Bool) : Mode → (acc : List Char) → List Char → Option (List Char × List Char)
  | _, _, [] => none
  | .within, acc, c :: rest =>
    if c == '\x22' then
      if !multi then some (acc.reverse, rest)
      else if isTriple '\x22' (c :: rest) then some (trailingQuotes '\x22' acc (rest.drop 2))
      else double multi .within (c :: acc) rest
    else if c == '\\' then double multi .escape acc rest
    else if isTextChar c || (multi && c == '\n') then double multi .within (c :: acc) rest
    else none
  | .escape, acc, c :: rest =>
    match shortEscape? c, escapeDigits? c with
    | some d, _ => double multi .within (d :: acc) rest
    | none, some n => double multi (.digits n 0) acc rest
    | none, none =>
      if multi && isBlank c then double multi .escapedBlanks acc rest
      else if multi && c == '\n' then double multi .trim acc rest
      else none
  | .escapedBlanks, acc, c :: rest =>
    if isBlank c then double multi .escapedBlanks acc rest
    else if c == '\n' then double multi .trim acc rest
    else none
  | .trim, acc, c :: rest =>
    if isBlank c || c == '\n' then double multi .trim acc rest
    else if c == '\x22' then
      if isTriple '\x22' (c :: rest) then some (trailingQuotes '\x22' acc (rest.drop 2))
      else double multi .within (c :: acc) rest
    else if c == '\\' then double multi .escape acc rest
    else if isTextChar c then double multi .within (c :: acc) rest
    else none
  | .digits left value, acc, c :: rest =>
    match Numeral.digit? 16 c with
    | none => none
    | some digit =>
      let value := value * 16 + digit
      if 1 < left then double multi (.digits (left - 1) value) acc rest
      else if value.isValidChar then double multi .within (Char.ofNat value :: acc) rest
      else none

/-- Reads on between single quotes; `acc` is the text so far, last character first. -/
def single (multi : Bool) : (acc : List Char) → List Char → Option (List Char × List Char)
  | _, [] => none
  | acc, c :: rest =>
    if c == '\'' then
      if !multi then some (acc.reverse, rest)
      else if isTriple '\'' (c :: rest) then some (trailingQuotes '\'' acc (rest.drop 2))
      else single multi (c :: acc) rest
    else if isTextChar c || (multi && c == '\n') then single multi (c :: acc) rest
    else none

/-- Drops the line end right after the quotes that start a string. -/
def dropFirstBreak : List Char → List Char
  | '\n' :: rest => rest
  | text => text

/-- **Reads a string on one line.** -/
def line? : List Char → Option (List Char × List Char)
  | '\x22' :: rest => double false .within [] rest
  | '\'' :: rest => single false [] rest
  | _ => none

/-- **Reads a string.** -/
def read? (text : List Char) : Option (List Char × List Char) :=
  if isTriple '\x22' text then double true .within [] (dropFirstBreak (text.drop 3))
  else if isTriple '\'' text then single true [] (dropFirstBreak (text.drop 3))
  else line? text

end Literal

end DrumMachine.Toml
