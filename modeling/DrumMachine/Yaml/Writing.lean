import DrumMachine.Yaml.Character
import DrumMachine.Yaml.Number

/-! # Writing YAML

Values are numbers, texts and mappings. `Value.render` writes a mapping in block style, one entry a
line, and chooses for every text the plainest style that reads back as this text: none, single
quotes, or double quotes with escapes; a text with line feeds becomes a literal block scalar where
that is possible. -/

namespace DrumMachine.Yaml

/-- How much further each level is indented. -/
def indentStep : Nat := 2

/-- The most bytes of a key that is written without a mark. -/
def maxBareKey : Nat := 128

/-- So many spaces. -/
def spaces (n : Nat) : List Char := List.replicate n ' '

namespace Writing

/-- Whether some character of class `p` is followed directly by one of class `q`. -/
def hasPair (p q : Char → Bool) : List Char → Bool
  | a :: b :: rest => (p a && q b) || hasPair p q (b :: rest)
  | _ => false

/-- A space. -/
def isSpace (c : Char) : Bool := c == ' '

/-- A character that is lost at the ends of a text without quotes. -/
def isTrimmed (c : Char) : Bool := isSpace c || isBreak c

/-- Whether a text starts with a mark that says what follows. -/
def startsMarked (text : List Char) : Bool :=
  match text with
  | [] => false
  | c :: rest =>
    isIndicator c || ((c == '?' || c == '-') && isSeparator (rest.headD endMark)) ||
      ['-', '-', '-'].isPrefixOf text || ['.', '.', '.'].isPrefixOf text

/-- Whether a text holds a mark of a value or of a comment; `separated` says that a separator
stands before it. -/
def holdsMark : (separated : Bool) → List Char → Bool
  | _, [] => false
  | separated, c :: rest =>
    (c == ':' && isSeparator (rest.headD endMark)) || (c == '#' && separated) ||
      holdsMark (isSeparator c) rest

/-- Whether a text can stand without quotes. -/
def allowsPlain (text : List Char) : Bool :=
  text.all (fun c => isPrintable c && !isBreak c) && !text.head?.any isTrimmed &&
    !text.getLast?.any isTrimmed && !startsMarked text && !holdsMark true text

/-- Whether a text can stand in single quotes. -/
def allowsSingle (text : List Char) : Bool :=
  text.all isPrintable && !hasPair isBreak isSpace text && !hasPair isSpace isBreak text

/-- Whether a text can be a literal block scalar. -/
def allowsLiteral (text : List Char) : Bool :=
  text.all isPrintable && !text.getLast?.any isSpace && !hasPair isSpace isBreak text

/-- How a text is written. -/
inductive Form where
  | plain
  | single
  | double
  | literal
  deriving DecidableEq, Repr

/-- **The form of a text.** -/
def form (text : String) : Form :=
  let chars := text.toList
  -- line feeds settle the style before anything else is asked
  if chars.contains '\n' then if allowsLiteral chars then .literal else .double
  else if !standsForElse text && allowsPlain chars then .plain
  else if allowsSingle chars then .single
  else .double

/-- Writes what stands between single quotes, and the last quote; lines are indented by `indent`
spaces, and `broken` says that a line has just started. -/
def single (indent : Nat) : (broken : Bool) → List Char → List Char
  | broken, [] => (if broken then spaces indent else []) ++ ['\'']
  | broken, c :: rest =>
    if isBreak c then c :: single indent true rest
    else
      (if broken then spaces indent else []) ++
        (if c == '\'' then ['\'', '\''] else [c]) ++ single indent false rest

/-- A number in upper-case hexadecimal digits, in so many places. -/
def hex (places n : Nat) : List Char :=
  let digits := (Nat.toDigits 16 n).map Char.toUpper
  List.replicate (places - digits.length) '0' ++ digits

/-- **How a character is written in double quotes.** -/
def escape (c : Char) : List Char :=
  if c == '\x00' then ['\\', '0']
  else if c == '\x07' then ['\\', 'a']
  else if c == '\x08' then ['\\', 'b']
  else if c == '\t' then ['\\', 't']
  else if c == '\n' then ['\\', 'n']
  else if c == '\x0b' then ['\\', 'v']
  else if c == '\x0c' then ['\\', 'f']
  else if c == '\r' then ['\\', 'r']
  else if c == '\x1b' then ['\\', 'e']
  else if c == '\x22' then ['\\', '\x22']
  else if c == '\\' then ['\\', '\\']
  else if c == '\u0085' then ['\\', 'N']
  else if c == '\u2028' then ['\\', 'L']
  else if c == '\u2029' then ['\\', 'P']
  else if isPrintable c then [c]
  else if c.toNat ≤ 0xFF then ['\\', 'x'] ++ hex 2 c.toNat
  else if c.toNat ≤ 0xFFFF then ['\\', 'u'] ++ hex 4 c.toNat
  else ['\\', 'U'] ++ hex 8 c.toNat

/-- The indentation in the header of a literal block scalar: it is given where the text starts with
what could be taken for indentation. -/
def indentHint (text : List Char) : List Char :=
  if text.head?.any isTrimmed then (toString indentStep).toList else []

/-- The chomping in the header of a literal block scalar. -/
def chompHint (text : List Char) : List Char :=
  match text.reverse with
  | [] => ['-']
  | last :: before =>
    if !isBreak last then ['-']
    else if before.isEmpty || before.head?.any isBreak then ['+']
    else []

/-- Writes the lines of a literal block scalar; `broken` says that a line has just started. -/
def literal (indent : Nat) : (broken : Bool) → List Char → List Char
  | _, [] => []
  | broken, c :: rest =>
    if isBreak c then c :: literal indent true rest
    else (if broken then spaces indent else []) ++ c :: literal indent false rest

/-- **Writes a text**; further lines are indented by `indent` spaces. -/
def text (indent : Nat) (text : String) : List Char :=
  let chars := text.toList
  match form text with
  | .plain => chars
  | .single => '\'' :: single indent false chars
  | .double => '\x22' :: chars.flatMap escape ++ ['\x22']
  | .literal =>
    '|' :: indentHint chars ++ chompHint chars ++ '\n' :: literal indent true chars

/-- Ends a line that has not ended yet. -/
def endLine (line : List Char) : List Char :=
  if line.getLast?.any isBreak then line else line ++ ['\n']

/-- Whether a key is written without a mark. -/
def isBare (key : String) : Bool :=
  key.utf8ByteSize ≤ maxBareKey && !key.toList.any isBreak

/-- Writes a key up to the colon after it. -/
def key (indent : Nat) (name : String) : List Char :=
  if isBare name then text (indent + indentStep) name ++ [':']
  else
    ['?', ' '] ++ endLine (text (indent + indentStep) name) ++ spaces indent ++ [':']

end Writing

/-- **A value to be written.** -/
inductive Value where
  | number (n : Nat)
  | text (text : String)
  | mapping (entries : List (String × Value))

namespace Value

mutual

/-- Writes what follows the colon of an entry that is indented by `indent` spaces, up to the end of
its last line. -/
def after (indent : Nat) : Value → List Char
  | number n => ' ' :: (toString n).toList ++ ['\n']
  | text s => ' ' :: Writing.endLine (Writing.text (indent + indentStep) s)
  | mapping [] => [' ', '\x7b', '\x7d', '\n']
  | mapping (entry :: entries) =>
    '\n' :: entriesText (indent + indentStep) (entry :: entries)

/-- Writes the entries of a mapping. -/
def entriesText (indent : Nat) : List (String × Value) → List Char
  | [] => []
  | (name, value) :: rest =>
    spaces indent ++ Writing.key indent name ++ after indent value ++ entriesText indent rest

end

/-- **A mapping as a document.** -/
def render (entries : List (String × Value)) : String := String.ofList (entriesText 0 entries)

end Value

end DrumMachine.Yaml
