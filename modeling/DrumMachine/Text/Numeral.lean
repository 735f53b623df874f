/-! # Numerals

Whole numbers in digits of any base up to 36, and the size of decimal fractions. -/

namespace DrumMachine.Text.Numeral

/-- The value of a digit in a base. -/
def digit? (base : Nat) (c : Char) : Option Nat :=
  let value :=
    if '0' ≤ c ∧ c ≤ '9' then c.toNat - '0'.toNat
    else if 'a' ≤ c ∧ c ≤ 'z' then c.toNat - 'a'.toNat + 10
    else if 'A' ≤ c ∧ c ≤ 'Z' then c.toNat - 'A'.toNat + 10
    else base
  if value < base then some value else none

/-- Reads digits onto a number. -/
def onto? (base : Nat) : (acc : Nat) → List Char → Option Nat
  | acc, [] => some acc
  | acc, c :: cs =>
    match digit? base c with
    | none => none
    | some digit => onto? base (acc * base + digit) cs

/-- **The number that digits stand for.** There has to be at least one. -/
def number? (base : Nat) (digits : List Char) : Option Nat :=
  if digits.isEmpty then none else onto? base 0 digits

/-- A number as 32 bits, if it fits. -/
def toUInt32? (n : Nat) : Option UInt32 := if n < UInt32.size then some n.toUInt32 else none

/-- A run of decimal digits and what follows it. -/
def spanDigits (text : List Char) : List Char × List Char := text.span Char.isDigit

/-- The digits of a decimal fraction without its sign: those before the point, those after it, and
the power of ten that it is multiplied by. -/
structure Decimal where
  whole : List Char
  fraction : List Char
  exponent : Int
  deriving DecidableEq, Repr

/-- Splits a sign off. -/
def sign : List Char → Bool × List Char
  | '-' :: rest => (true, rest)
  | '+' :: rest => (false, rest)
  | rest => (false, rest)

namespace Decimal

/-- Reads the power of ten at the end of a decimal fraction; nothing stands for zero. -/
def exponent? : List Char → Option Int
  | [] => some 0
  | c :: rest =>
    if c == 'e' || c == 'E' then
      match sign rest with
      | (negative, digits) =>
        if digits.all Char.isDigit then
          (number? 10 digits).map fun n => if negative then -(n : Int) else n
        else none
    else none

/-- **Reads a decimal fraction**: digits with or without a point, at least one of them, and maybe a
power of ten. -/
def read? (text : List Char) : Option Decimal :=
  match spanDigits text with
  | (whole, '.' :: rest) =>
    match spanDigits rest with
    | (fraction, rest) =>
      if whole.isEmpty && fraction.isEmpty then none
      else (exponent? rest).map fun e => ⟨whole, fraction, e⟩
  | (whole, rest) =>
    if whole.isEmpty then none else (exponent? rest).map fun e => ⟨whole, [], e⟩

/-- **Whether a decimal fraction is too large for double precision**: it is at least halfway from
the largest finite number to the next power of two. -/
def overflows (d : Decimal) : Bool :=
  let digits := (onto? 10 0 (d.whole ++ d.fraction)).getD 0
  let shift := d.exponent - d.fraction.length
  let bound := Nat.pow 2 1024 - Nat.pow 2 970
  if digits = 0 then false
  else if shift < 0 then
    -- a number of n digits is below 10 to the power of n
    if (d.whole.length + d.fraction.length : Int) + shift < 300 then false
    else bound * Nat.pow 10 shift.natAbs ≤ digits
  else if 400 < shift then true
  else bound ≤ digits * Nat.pow 10 shift.natAbs

end Decimal

/-- A number of 32 bits fits into them. -/
@[simp] theorem toUInt32?_toNat (n : UInt32) : toUInt32? n.toNat = some n := by
  rw [toUInt32?, if_pos n.toNat_lt, Nat.toUInt32_eq, UInt32.ofNat_toNat]

end DrumMachine.Text.Numeral
