import DrumMachine.Toml.DateTime
import DrumMachine.Toml.Literal
import DrumMachine.Toml.Number
import DrumMachine.Toml.Value

/-! # TOML documents

A document is a sequence of statements, one a line: a header names the table that is filled from
then on, and a pair adds a value to it. `Entries.ofText?` reads the statements and builds the
table that they describe. Values may be nested in each other, and names in a key, fewer than eighty
times. -/

namespace DrumMachine.Toml

/-- The depth of values in each other, and of names in a key, that is too much. -/
def depthLimit : Nat := 80

/-- **A statement.** The names before the last one of its key are a path. -/
inductive Statement where
  | pair (path : List String) (name : String) (value : Value)
  | table (path : List String) (name : String)
  | further (path : List String) (name : String)

namespace Statement

/-! ## Blanks, comments and line ends -/

/-- Makes a line feed of every carriage return that one follows. -/
def unifyBreaks : List Char → List Char
  | '\r' :: '\n' :: rest => '\n' :: unifyBreaks rest
  | c :: rest => c :: unifyBreaks rest
  | [] => []

/-- Drops blanks. -/
def dropBlanks (text : List Char) : List Char := text.dropWhile isBlank

/-- Drops a comment, if there is one. -/
def dropComment : List Char → List Char
  | '#' :: rest => rest.dropWhile isTextChar
  | text => text

/-- Drops the rest of a line, which may hold no more than blanks and a comment. -/
def finishLine? (text : List Char) : Option (List Char) :=
  match dropComment (dropBlanks text) with
  | [] => some []
  | '\n' :: rest => some rest
  | _ => none

/-- Drops blanks, comments and line ends; `inComment` says that a comment has started. -/
def dropLoose : (inComment : Bool) → List Char → List Char
  | _, [] => []
  | inComment, c :: rest =>
    if c == '\n' then dropLoose false rest
    else if inComment then if isTextChar c then dropLoose true rest else c :: rest
    else if isBlank c then dropLoose false rest
    else if c == '#' then dropLoose true rest
    else c :: rest

/-! ## Keys -/

/-- A character of a name without quotes. -/
def isNameChar (c : Char) : Bool := c.isAlphanum || c == '_' || c == '-'

/-- Reads a name, with or without quotes. -/
def name? (text : List Char) : Option (String × List Char) :=
  match Literal.line? text with
  | some (name, rest) => some (String.ofList name, rest)
  | none =>
    match text.span isNameChar with
    | ([], _) => none
    | (name, rest) => some (String.ofList name, rest)

/-- Reads at most `fuel` names with points between them, and the blanks around them. -/
def names? : (fuel : Nat) → List Char → Option (List String × List Char)
  | 0, _ => none
  | fuel + 1, text =>
    match name? (dropBlanks text) with
    | none => none
    | some (name, rest) =>
      match dropBlanks rest with
      | '.' :: rest => (names? fuel rest).map fun (names, rest) => (name :: names, rest)
      | rest => some ([name], rest)

/-- **Reads a key**: a path and a name at its end. -/
def key? (text : List Char) : Option ((List String × String) × List Char) :=
  match names? (depthLimit - 1) text with
  | none => none
  | some (names, rest) => names.getLast?.map fun name => ((names.dropLast, name), rest)

/-! ## Values -/

mutual

/-- Reads a value that is nested `depth` times. -/
def value? : (fuel depth : Nat) → List Char → Option (Value × List Char)
  | 0, _, _ => none
  | fuel + 1, depth, text =>
    match text with
    | [] => none
    | c :: rest =>
      if c == '\x22' || c == '\'' then
        (Literal.read? text).map fun (content, rest) => (.string (String.ofList content), rest)
      else if c == '[' then
        if depth + 1 < depthLimit then
          (items? fuel (depth + 1) rest).map fun (items, rest) => (.array items, rest)
        else none
      else if c == '\x7b' then
        if depth + 1 < depthLimit then
          (braces? fuel (depth + 1) rest).map fun (entries, rest) => (.table .braces entries, rest)
        else none
      else if c.isDigit || c == '+' || c == '-' || c == 'i' || c == 'n' then
        match DateTime.read? text with
        | some result => some result
        | none => Number.read? text
      else if ['t', 'r', 'u', 'e'].isPrefixOf text then some (.boolean true, text.drop 4)
      else if ['f', 'a', 'l', 's', 'e'].isPrefixOf text then some (.boolean false, text.drop 5)
      else none

/-- Reads the items of an array and its end. A comma may follow the last item. -/
def items? : (fuel depth : Nat) → List Char → Option (List Value × List Char)
  | 0, _, _ => none
  | fuel + 1, depth, text =>
    match dropLoose false text with
    | ']' :: rest => some ([], rest)
    | text =>
      match value? fuel depth text with
      | none => none
      | some (item, rest) =>
        match dropLoose false rest with
        | ',' :: rest => (items? fuel depth rest).map fun (items, rest) => (item :: items, rest)
        | ']' :: rest => some ([item], rest)
        | _ => none

/-- Reads the entries of a table in braces and its end. -/
def braces? : (fuel depth : Nat) → List Char → Option (Entries × List Char)
  | 0, _, _ => none
  | fuel + 1, depth, text =>
    match dropBlanks text with
    | '\x7d' :: rest => some ([], rest)
    | text => entries? fuel depth [] text

/-- Reads at least one entry of a table in braces onto `entries`, and the end of the table. -/
def entries? : (fuel depth : Nat) → Entries → List Char → Option (Entries × List Char)
  | 0, _, _, _ => none
  | fuel + 1, depth, entries, text =>
    match key? text with
    | some ((path, name), '=' :: rest) =>
      match value? fuel depth (dropBlanks rest) with
      | none => none
      | some (value, rest) =>
        match entries.addPair? path name value .braces with
        | none => none
        | some entries =>
          match dropBlanks rest with
          | ',' :: rest => entries? fuel depth entries rest
          | '\x7d' :: rest => some (entries, rest)
          | _ => none
    | _ => none

end

/-! ## Statements -/

/-- Reads a pair up to the end of its line. -/
def pair? (text : List Char) : Option (Statement × List Char) :=
  match key? text with
  | some ((path, name), '=' :: rest) =>
    match value? (2 * rest.length + 2) 0 (dropBlanks rest) with
    | none => none
    | some (value, rest) => (finishLine? rest).map fun rest => (.pair path name value, rest)
  | _ => none

/-- Reads a header from after its first bracket up to the end of its line. -/
def header? (text : List Char) : Option (Statement × List Char) :=
  match text with
  | '[' :: rest =>
    match key? rest with
    | some ((path, name), ']' :: ']' :: rest) =>
      (finishLine? rest).map fun rest => (.further path name, rest)
    | _ => none
  | _ =>
    match key? text with
    | some ((path, name), ']' :: rest) =>
      (finishLine? rest).map fun rest => (.table path name, rest)
    | _ => none

/-- Reads all statements of a text; there are no more than `fuel` lines. -/
def all? : (fuel : Nat) → List Char → Option (List Statement)
  | 0, _ => none
  | fuel + 1, text =>
    match dropBlanks text with
    | [] => some []
    | '\n' :: rest => all? fuel rest
    | '#' :: rest =>
      match finishLine? ('#' :: rest) with
      | none => none
      | some rest => all? fuel rest
    | '[' :: rest =>
      match header? rest with
      | none => none
      | some (statement, rest) => (all? fuel rest).map (statement :: ·)
    | text =>
      match pair? text with
      | none => none
      | some (statement, rest) => (all? fuel rest).map (statement :: ·)

/-- Carries a statement out on a document whose current table is at the path `current`. -/
def carryOut? (statement : Statement) (root : Entries) (current : List String) :
    Option (Entries × List String) :=
  match statement with
  | .pair path name value =>
    (Entries.at? false (Entries.addPair? path name value) current .header root).map (·, current)
  | .table path name => (root.addTable? path name).map (·, path ++ [name])
  | .further path name => (root.addFurther? path name).map (·, path ++ [name])

/-- Carries statements out, one after the other. -/
def carryOutAll? : List Statement → Entries → (current : List String) → Option Entries
  | [], root, _ => some root
  | statement :: rest, root, current =>
    match statement.carryOut? root current with
    | none => none
    | some (root, current) => carryOutAll? rest root current

end Statement

/-- **Reads a document.** -/
def Entries.ofText? (text : String) : Option Entries :=
  let chars := match text.toList with
    | '\ufeff' :: rest => rest
    | chars => chars
  match Statement.all? (chars.length + 1) (Statement.unifyBreaks chars) with
  | none => none
  | some statements => Statement.carryOutAll? statements [] []

end DrumMachine.Toml
