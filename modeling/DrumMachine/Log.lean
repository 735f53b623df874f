/-! # The log

What the program says while it works: entries of three levels, of which a reader chooses how much
to see. A message never carries the control characters that steer a terminal. -/

namespace DrumMachine

/-- How much an entry matters. -/
inductive Level where
  | warning
  | info
  | debug
  deriving DecidableEq, Repr

namespace Level

/-- A level's name. -/
def name : Level → String
  | warning => "WARN"
  | info => "INFO"
  | debug => "DEBUG"

/-- The higher the rank, the less an entry matters. -/
def rank : Level → Nat
  | warning => 0
  | info => 1
  | debug => 2

end Level

/-- **One entry of the log.** -/
structure LogEntry where
  level : Level
  message : String
  /-- Named values, already written out. -/
  fields : List (String × String) := []
  deriving DecidableEq, Repr

namespace LogEntry

/-- How a message shows a character: those that steer a terminal are spelled out. -/
def shownChar (c : Char) : List Char :=
  if c = '\x1b' then ['\\', 'x', '1', 'b']
  else if c = '\x07' then ['\\', 'x', '0', '7']
  else if c = '\x08' then ['\\', 'x', '0', '8']
  else if c = '\x0c' then ['\\', 'x', '0', 'c']
  else if c = '\x7f' then ['\\', 'x', '7', 'f']
  else if 0x80 ≤ c.toNat ∧ c.toNat ≤ 0x9F then
    ['\\', 'u', '\x7b'] ++ Nat.toDigits 16 c.toNat ++ ['\x7d']
  else [c]

/-- The message and the fields of an entry. -/
def body (entry : LogEntry) : String :=
  String.ofList (entry.message.toList.flatMap shownChar) ++
    String.join (entry.fields.map fun field => " " ++ field.1 ++ "=" ++ field.2)

/-- **An entry as a line**: its level, right-aligned in five places, and its body. -/
def line (entry : LogEntry) : String :=
  "".pushn ' ' (5 - entry.level.name.length) ++ entry.level.name ++ " " ++ entry.body

/-- The entries at `level` and above. -/
def upTo (level : Level) (entries : List LogEntry) : List LogEntry :=
  entries.filter fun entry => entry.level.rank ≤ level.rank

end LogEntry

end DrumMachine
