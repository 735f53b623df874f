import DrumMachine.Text.Numeral
import DrumMachine.Text.Utf8
import DrumMachine.Yaml.Layout

/-! # Names, tags and directives

An anchor or an alias has a name. A tag is written in full between angle brackets, or as a handle
and a suffix; what a handle stands for is said by a directive at the start of the document. -/

namespace DrumMachine.Yaml

/-- **A tag as written**: a handle, which is empty for a tag given in full, and a suffix. -/
structure Tag where
  handle : String
  suffix : String
  deriving DecidableEq, Repr

/-- **A directive**: the version of YAML, or what a tag handle stands for. -/
inductive Directive where
  | version (major minor : Nat)
  | tagHandle (handle meaning : String)
  deriving DecidableEq, Repr

namespace Tag

/-- Whether a character may follow the name of an anchor. -/
def endsName (c : Char) : Bool :=
  isSeparator c || ['?', ':', ',', ']', '\x7d', '%', '@', '\x60'].contains c

/-- **Reads the name of an anchor or an alias.** -/
def name? (layout : Layout) : Option (String × Layout) :=
  match layout.takeChars isNameChar with
  | ([], _) => none
  | (name, rest) => if endsName (rest.peek 0) then some (String.ofList name, rest) else none

/-- How many octets the character has that starts with the octet `b`. -/
def octets? (b : Nat) : Option Nat :=
  if b < 0x80 then some 1
  else if 0xC0 ≤ b ∧ b < 0xE0 then some 2
  else if 0xE0 ≤ b ∧ b < 0xF0 then some 3
  else if 0xF0 ≤ b ∧ b < 0xF8 then some 4
  else none

/-- Reads an octet written as a percent sign and two digits. -/
def octet? (layout : Layout) : Option (Nat × Layout) :=
  match layout.peek 0 == '%', Text.Numeral.digit? 16 (layout.peek 1),
      Text.Numeral.digit? 16 (layout.peek 2) with
  | true, some a, some b => some (a * 16 + b, layout.drop 3)
  | _, _, _ => none

/-- Reads `n` octets that continue a character. -/
def continuation? : (n : Nat) → Layout → Option (List UInt8 × Layout)
  | 0, layout => some ([], layout)
  | n + 1, layout =>
    match octet? layout with
    | none => none
    | some (b, rest) =>
      if 0x80 ≤ b ∧ b < 0xC0 then
        match continuation? n rest with
        | none => none
        | some (bs, rest) => some (b.toUInt8 :: bs, rest)
      else none

/-- Reads a character that is written in octets. -/
def escaped? (layout : Layout) : Option (List UInt8 × Layout) :=
  match octet? layout with
  | none => none
  | some (b, rest) =>
    match octets? b with
    | none => none
    | some n =>
      match continuation? (n - 1) rest with
      | none => none
      | some (bs, rest) => some (b.toUInt8 :: bs, rest)

/-- Reads characters of the class `p`, at most `fuel` of them; some may be written in octets. -/
def characters? (p : Char → Bool) : (fuel : Nat) → Layout → Option (List UInt8 × Layout)
  | 0, layout => some ([], layout)
  | fuel + 1, layout =>
    if !p (layout.peek 0) then some ([], layout)
    else
      let one :=
        if layout.peek 0 == '%' then escaped? layout
        else some (String.utf8EncodeChar (layout.peek 0), layout.tail)
      match one with
      | none => none
      | some (bs, rest) =>
        match characters? p fuel rest with
        | none => none
        | some (more, rest) => some (bs ++ more, rest)

/-- **Reads the body of a tag**: characters of the class `p` after `start`. A NUL ends its text. -/
def body? (p : Char → Bool) (start : List Char) (layout : Layout) : Option (String × Layout) :=
  match characters? p layout.length layout with
  | none => none
  | some (bytes, rest) =>
    if start.isEmpty && !p (layout.peek 0) then none
    else
      let text := start.drop 1 ++ (Text.Utf8.decodeLossy bytes).toList
      some (String.ofList (text.takeWhile (· != '\x00')), rest)

/-- Reads a handle: an exclamation mark, a name, and another mark if there is one. -/
def handle? (layout : Layout) : Option (List Char × Layout) :=
  if layout.peek 0 != '!' then none
  else
    match Layout.takeChars isNameChar layout.tail with
    | (name, rest) =>
      if rest.peek 0 == '!' then some ('!' :: name ++ ['!'], rest.tail)
      else some ('!' :: name, rest)

/-- Whether a handle has an exclamation mark at both ends. -/
def isClosed (handle : List Char) : Bool :=
  match handle with
  | '!' :: rest => rest.getLast? == some '!'
  | _ => false

/-- Reads a tag, whatever follows it. -/
def written? (layout : Layout) : Option (Tag × Layout) :=
  if layout.peek 1 == '<' then
    match body? isUriChar [] (layout.drop 2) with
    | none => none
    | some (suffix, rest) =>
      if rest.peek 0 == '>' then some (⟨"", suffix⟩, rest.tail) else none
  else
    match handle? layout with
    | none => none
    | some (handle, rest) =>
      if isClosed handle then
        match body? isTagChar [] rest with
        | none => none
        | some (suffix, rest) => some (⟨String.ofList handle, suffix⟩, rest)
      else
        match body? isTagChar handle rest with
        | none => none
        | some (suffix, rest) =>
          if suffix.isEmpty then some (⟨"", "!"⟩, rest) else some (⟨"!", suffix⟩, rest)

/-- **Reads a tag**, which a separator follows or, in flow context, a comma. -/
def read? (inFlow : Bool) (layout : Layout) : Option (Tag × Layout) :=
  match written? layout with
  | none => none
  | some (tag, rest) =>
    if isSeparator (rest.peek 0) || (inFlow && rest.peek 0 == ',') then some (tag, rest) else none

/-- What the handle of a tag stands for where no directive says otherwise. -/
def standardHandles : List (String × String) := [("!", "!"), ("!!", "tag:yaml.org,2002:")]

/-- **The full text of a tag**, if its handle stands for something. -/
def resolve? (handles : List (String × String)) (tag : Tag) : Option String :=
  if tag.handle.isEmpty then some tag.suffix
  else ((handles ++ standardHandles).lookup tag.handle).map (· ++ tag.suffix)

end Tag

namespace Directive

/-- Reads a number of at most nine digits. -/
def number? (layout : Layout) : Option (Nat × Layout) :=
  match layout.takeChars Char.isDigit with
  | (digits, rest) =>
    if 9 < digits.length then none
    else (Text.Numeral.number? 10 digits).map (·, rest)

/-- Reads the value of a version directive. -/
def version? (layout : Layout) : Option (Directive × Layout) :=
  match number? layout.dropBlanks with
  | none => none
  | some (major, rest) =>
    if rest.peek 0 != '.' then none
    else
      match number? rest.tail with
      | none => none
      | some (minor, rest) => some (.version major minor, rest)

/-- Reads the value of a directive for a tag handle. -/
def tagHandle? (layout : Layout) : Option (Directive × Layout) :=
  match Tag.handle? layout.dropBlanks with
  | none => none
  | some (handle, rest) =>
    if (handle != ['!'] && !Tag.isClosed handle) || !isBlank (rest.peek 0) then none
    else
      match Tag.body? isUriChar [] rest.dropBlanks with
      | none => none
      | some (meaning, rest) =>
        if isSeparator (rest.peek 0) then some (.tagHandle (String.ofList handle) meaning, rest)
        else none

/-- **Reads a directive** from after its percent sign to the end of its line. -/
def read? (layout : Layout) : Option (Directive × Layout) :=
  match layout.takeChars isNameChar with
  | (name, rest) =>
    if !isSeparator (rest.peek 0) then none
    else
      let value :=
        if name == ['Y', 'A', 'M', 'L'] then version? rest
        else if name == ['T', 'A', 'G'] then tagHandle? rest
        else none
      match value with
      | none => none
      | some (directive, rest) => rest.finishLine?.map (directive, ·)

end Directive

end DrumMachine.Yaml
