import DrumMachine.Text.Numeral
import DrumMachine.Toml.Value

/-! # Numbers of TOML

Digits may be grouped by low lines, each between two digits. Whole numbers have 64 bits and no
needless zero at the front; a fraction must not be too large. -/

namespace DrumMachine.Toml.Number

open DrumMachine.Text.Numeral

/-- Reads on in a run of digits. -/
def moreDigits? (p : Char → Bool) : List Char → Option (List Char × List Char)
  | '_' :: c :: rest =>
    if p c then (moreDigits? p rest).map fun (digits, rest) => (c :: digits, rest) else none
  | c :: rest =>
    if p c then (moreDigits? p rest).map fun (digits, rest) => (c :: digits, rest)
    else if c == '_' then none
    else some ([], c :: rest)
  | [] => some ([], [])

/-- **Reads a run of digits**: their low lines are dropped. -/
def digits? (p : Char → Bool) : List Char → Option (List Char × List Char)
  | c :: rest =>
    if p c then (moreDigits? p rest).map fun (digits, rest) => (c :: digits, rest) else none
  | [] => none

/-- Reads the digits of a whole number in base ten: a single zero, or a run that starts with
another digit. -/
def whole? : List Char → Option (List Char × List Char)
  | '0' :: rest => some (['0'], rest)
  | text => digits? Char.isDigit text

/-- A whole number of 64 bits. -/
def integer? (negative : Bool) (n : Nat) : Option Value :=
  if negative then if n ≤ Nat.pow 2 63 then some (.integer (-n)) else none
  else if n < Nat.pow 2 63 then some (.integer n) else none

/-- Reads the power of ten of a fraction, if there is one. -/
def power? : List Char → Option (Int × List Char)
  | c :: rest =>
    if c == 'e' || c == 'E' then
      match sign rest with
      | (negative, rest) =>
        (digits? Char.isDigit rest).map fun (digits, rest) =>
          let n := (number? 10 digits).getD 0
          (if negative then -(n : Int) else n, rest)
    else some (0, c :: rest)
  | [] => some (0, [])

/-- A fraction that is not too large; one that is negative may be. -/
def float? (negative : Bool) (decimal : Decimal) : Option Value :=
  if !negative && decimal.overflows then none else some .float

/-- Reads what follows the sign and the whole part of a number. -/
def rest? (negative : Bool) (whole : List Char) (text : List Char) :
    Option (Value × List Char) := do
  match text with
  | '.' :: rest =>
    let (fraction, rest) ← digits? Char.isDigit rest
    let (exponent, rest) ← power? rest
    let value ← float? negative ⟨whole, fraction, exponent⟩
    pure (value, rest)
  | c :: _ =>
    if c == 'e' || c == 'E' then
      let (exponent, rest) ← power? text
      let value ← float? negative ⟨whole, [], exponent⟩
      pure (value, rest)
    else
      let value ← integer? negative ((number? 10 whole).getD 0)
      pure (value, text)
  | [] =>
    let value ← integer? negative ((number? 10 whole).getD 0)
    pure (value, [])

/-- Reads a number in a base that is named before its digits. -/
def based? (base : Nat) (text : List Char) : Option (Value × List Char) := do
  let (digits, rest) ← digits? (fun c => (digit? base c).isSome) text
  let value ← integer? false ((number? base digits).getD 0)
  pure (value, rest)

/-- Reads a number or a name of one after its sign. -/
def unsigned? (negative : Bool) (text : List Char) : Option (Value × List Char) :=
  match text with
  | 'i' :: 'n' :: 'f' :: rest | 'n' :: 'a' :: 'n' :: rest => some (.float, rest)
  | _ => do
    let (whole, rest) ← whole? text
    rest? negative whole rest

/-- **Reads a number.** -/
def read? (text : List Char) : Option (Value × List Char) :=
  match text with
  | '0' :: 'x' :: rest => based? 16 rest
  | '0' :: 'o' :: rest => based? 8 rest
  | '0' :: 'b' :: rest => based? 2 rest
  | _ => unsigned? (sign text).1 (sign text).2

end DrumMachine.Toml.Number
