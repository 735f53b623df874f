import DrumMachine.Text.Unshown

/-! # Quoted text

Messages quote names and paths: between double quotes, with a backslash before a quote or a
backslash, short escapes for the usual controls, and the code point of every other character that
would not show as itself. A quoted text therefore stands on one line and shows all of its
content. -/

namespace DrumMachine.Text.Quoted

/-- The code point of a character in lower-case hexadecimal digits. -/
def codePoint (c : Char) : List Char := Nat.toDigits 16 c.toNat

/-- **How one character is written between the quotes.** -/
def escape (c : Char) : List Char :=
  if c = '\x22' then ['\\', '\x22']
  else if c = '\\' then ['\\', '\\']
  else if c = '\n' then ['\\', 'n']
  else if c = '\r' then ['\\', 'r']
  else if c = '\t' then ['\\', 't']
  else if c = '\x00' then ['\\', '0']
  else if isUnshown c then ['\\', 'u', '\x7b'] ++ codePoint c ++ ['\x7d']
  else [c]

/-- **A text in quotes.** -/
def encode (s : String) : String :=
  String.ofList ('\x22' :: s.toList.flatMap escape ++ ['\x22'])

end DrumMachine.Text.Quoted
