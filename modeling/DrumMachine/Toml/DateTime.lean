import DrumMachine.Text.Numeral
import DrumMachine.Toml.Value

/-! # Dates and times of TOML

A date, a time, or both with or without an offset. They are kept in the form in which they are
written out: a capital letter between date and time, no more than nine places of a second, none of
them needless, and an offset with a sign. -/

namespace DrumMachine.Toml.DateTime

open DrumMachine.Text.Numeral

/-- Reads a number of exactly `n` digits that is at least `least` and at most `most`. -/
def field? (n least most : Nat) (text : List Char) : Option (Nat × List Char) :=
  let digits := text.take n
  if digits.length = n && digits.all Char.isDigit then
    match number? 10 digits with
    | none => none
    | some value => if least ≤ value && value ≤ most then some (value, text.drop n) else none
  else none

/-- Reads a given character. -/
def mark? (c : Char) : List Char → Option (List Char)
  | d :: rest => if d == c then some rest else none
  | [] => none

/-- A number in at least `places` digits. -/
def padded (places n : Nat) : List Char :=
  let digits := Nat.toDigits 10 n
  List.replicate (places - digits.length) '0' ++ digits

/-- Whether a year has a leap day. -/
def isLeap (year : Nat) : Bool := year % 4 == 0 && (year % 100 != 0 || year % 400 == 0)

/-- The number of days of a month. -/
def daysOf (year month : Nat) : Nat :=
  if month = 2 then if isLeap year then 29 else 28
  else if [4, 6, 9, 11].contains month then 30
  else 31

/-- Reads a date. -/
def date? (text : List Char) : Option (List Char × List Char) := do
  let (year, rest) ← field? 4 0 9999 text
  let rest ← mark? '-' rest
  let (month, rest) ← field? 2 1 12 rest
  let rest ← mark? '-' rest
  let (day, rest) ← field? 2 1 (daysOf year month) rest
  pure (padded 4 year ++ '-' :: padded 2 month ++ '-' :: padded 2 day, rest)

/-- The places of a second after the point: at most nine, and no zeros at the end. -/
def placesText (digits : List Char) : List Char :=
  match ((digits.take 9).reverse.dropWhile (· == '0')).reverse with
  | [] => []
  | places => '.' :: places

/-- Reads the places of a second, if there are any. -/
def places? : List Char → Option (List Char × List Char)
  | '.' :: rest =>
    match spanDigits rest with
    | ([], _) => none
    | (digits, rest) => some (placesText digits, rest)
  | text => some ([], text)

/-- Reads a time. -/
def time? (text : List Char) : Option (List Char × List Char) := do
  let (hour, rest) ← field? 2 0 23 text
  let rest ← mark? ':' rest
  let (minute, rest) ← field? 2 0 59 rest
  let rest ← mark? ':' rest
  let (second, rest) ← field? 2 0 60 rest
  let (places, rest) ← places? rest
  pure (padded 2 hour ++ ':' :: padded 2 minute ++ ':' :: padded 2 second ++ places, rest)

/-- Reads an offset, if there is one. -/
def offset? (text : List Char) : Option (List Char × List Char) := do
  match text with
  | c :: rest =>
    if c == 'Z' || c == 'z' then pure (['Z'], rest)
    else if c == '+' || c == '-' then
      let (hour, rest) ← field? 2 0 23 rest
      let rest ← mark? ':' rest
      let (minute, rest) ← field? 2 0 59 rest
      let mark := if hour = 0 ∧ minute = 0 then '+' else c
      pure (mark :: padded 2 hour ++ ':' :: padded 2 minute, rest)
    else pure ([], text)
  | [] => pure ([], [])

/-- Reads the time after a date: nothing if there is none. -/
def timeAfter? (text : List Char) : Option (List Char × List Char) :=
  match text with
  | c :: rest =>
    if c == 'T' || c == 't' || c == ' ' then
      match time? rest with
      | none => some ([], text)
      | some (time, rest) => (offset? rest).map fun (offset, rest) => ('T' :: time ++ offset, rest)
    else some ([], text)
  | [] => some ([], [])

/-- **Reads a date, a time or both.** -/
def read? (text : List Char) : Option (Value × List Char) :=
  match date? text with
  | some (date, rest) =>
    (timeAfter? rest).map fun (time, rest) => (.dateTime (String.ofList (date ++ time)), rest)
  | none => (time? text).map fun (time, rest) => (.dateTime (String.ofList time), rest)

end DrumMachine.Toml.DateTime
