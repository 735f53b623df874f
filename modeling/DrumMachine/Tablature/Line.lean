import DrumMachine.Text.Utf8

/-! # Lines of a tablature

A line names a drum with two bytes, then has a bar, then a pattern with one byte for every step:

    HH|..o...o.

A point or a dash is a pause and any other byte a hit; past the end of its pattern a drum is
silent. -/

namespace DrumMachine.Tablature

/-- The bar between a name and its pattern. -/
def bar : UInt8 := 0x7C

/-- The carriage return that may stand before a line feed. -/
def carriageReturn : UInt8 := 0x0D

/-- A byte that marks a pause: a point or a dash. -/
def isPause (b : UInt8) : Bool := b == 0x2E || b == 0x2D

/-- **A line of a tablature**: a drum and its pattern, which is never empty. -/
structure Line where
  name : String
  pattern : List UInt8
  pattern_ne_nil : pattern ≠ []
  deriving DecidableEq

namespace Line

/-- Drops one carriage return at the end. -/
def trim (bytes : List UInt8) : List UInt8 :=
  if bytes.getLast? = some carriageReturn then bytes.dropLast else bytes

/-- **Reads a line**, given without its line ending: two bytes of name, the bar, and at least one
byte of pattern. The name is read as UTF-8, with replacement characters where it is none. -/
def ofBytes? : List UInt8 → Option Line
  | a :: b :: c :: p :: ps =>
    if c = bar then some ⟨Text.Utf8.decodeLossy [a, b], p :: ps, by simp⟩ else none
  | _ => none

/-- Whether the drum is hit in column `i`. -/
def hitsAt (line : Line) (i : Nat) : Bool :=
  match line.pattern[i]? with
  | some b => !isPause b
  | none => false

/-- Four bytes or more are a line if the third one is a bar. -/
theorem ofBytes?_cons (a b c p : UInt8) (ps : List UInt8) :
    ofBytes? (a :: b :: c :: p :: ps) =
      if c = bar then some ⟨Text.Utf8.decodeLossy [a, b], p :: ps, by simp⟩ else none := rfl

/-- A drum is silent past the end of its pattern. -/
theorem hitsAt_of_length_le {line : Line} {i : Nat} (h : line.pattern.length ≤ i) :
    line.hitsAt i = false := by
  simp [hitsAt, List.getElem?_eq_none h]

end Line

end DrumMachine.Tablature
