import DrumMachine.Text.Numeral

/-! # Texts that stand for something else

Without quotes some texts are no strings: they stand for nothing, for a truth value or for a
number. -/

namespace DrumMachine.Yaml

open Text.Numeral

/-- Drops a leading plus sign. -/
def dropPlus : List Char → List Char
  | '+' :: rest => rest
  | text => text

/-- Digits that are no number, because a needless zero leads them. -/
def isZeroLed (text : List Char) : Bool :=
  match (sign text).2 with
  | '0' :: d :: rest => (d :: rest).all Char.isDigit
  | _ => false

/-- The base that a text names at its start, and the digits that follow. -/
def based? : List Char → Option (Nat × List Char)
  | '0' :: 'x' :: rest => some (16, rest)
  | '0' :: 'o' :: rest => some (8, rest)
  | '0' :: 'b' :: rest => some (2, rest)
  | _ => none

/-- **The whole number that a text without a minus sign stands for**, in base ten or in a base that
it names. -/
def unsigned? (text : List Char) : Option Nat :=
  let digits := dropPlus text
  match based? digits with
  | some (base, digits) => number? base digits
  | none => if isZeroLed text then none else number? 10 digits

/-- **The absolute value of the whole number that a text with a minus sign stands for.** -/
def negative? : List Char → Option Nat
  | '-' :: digits =>
    match based? digits with
    | some (base, digits) => number? base digits
    | none => if isZeroLed ('-' :: digits) then none else number? 10 digits
  | _ => none

/-- Whether a text stands for a whole number that fits into 128 bits. -/
def isWhole (text : List Char) : Bool :=
  (unsigned? text).any (· < Nat.pow 2 128) || (negative? text).any (· ≤ Nat.pow 2 127)

/-- The texts that stand for what is no finite number. -/
def unboundedTexts : List String :=
  [".inf", ".Inf", ".INF", "+.inf", "+.Inf", "+.INF", "-.inf", "-.Inf", "-.INF", ".nan", ".NaN",
    ".NAN"]

/-- Whether a text stands for a finite decimal fraction, maybe with a sign. -/
def isFraction (text : List Char) : Bool :=
  (Decimal.read? (sign text).2).any (!·.overflows)

/-- The texts that stand for nothing or for a truth value. -/
def constantTexts : List String :=
  ["", "~", "null", "Null", "NULL", "true", "True", "TRUE", "false", "False", "FALSE"]

/-- **Whether a text without quotes would not stand for itself.** -/
def standsForElse (text : String) : Bool :=
  constantTexts.contains text || unboundedTexts.contains text || isWhole text.toList ||
    isFraction text.toList || isZeroLed text.toList

end DrumMachine.Yaml
