/-! # UTF-8, strict and lenient

A byte string is read from left to right. `head` says what the first byte starts: a character, or
a run of bytes that starts none, together with how many further bytes that takes; `scalars` reads
on from there. Two readings are built on it:

* `decode?` — the text, if every byte is part of a character;
* `decodeLossy` — the text with one replacement character for every run that starts none, where
  the run is the longest one that some character could have started with.

`encode` is the way back. -/

namespace DrumMachine.Text.Utf8

/-- A byte that continues a character. -/
def isContinuation (b : UInt8) : Bool := 0x80 ≤ b && b ≤ 0xBF

/-- **What a leading byte announces**: how many bytes follow it, and the bounds of the first of
them, which keep out overlong forms, surrogates and numbers beyond the last code point. -/
def announced (b : UInt8) : Option (Nat × UInt8 × UInt8) :=
  if 0xC2 ≤ b && b ≤ 0xDF then some (1, 0x80, 0xBF)
  else if b == 0xE0 then some (2, 0xA0, 0xBF)
  else if b == 0xED then some (2, 0x80, 0x9F)
  else if 0xE1 ≤ b && b ≤ 0xEF then some (2, 0x80, 0xBF)
  else if b == 0xF0 then some (3, 0x90, 0xBF)
  else if b == 0xF4 then some (3, 0x80, 0x8F)
  else if 0xF1 ≤ b && b ≤ 0xF3 then some (3, 0x80, 0xBF)
  else none

/-- Reads `n` more continuation bytes onto the number `acc`, after `taken` bytes. -/
def continued : (n acc taken : Nat) → List UInt8 → Option Char × Nat
  | 0, acc, taken, _ => (some (Char.ofNat acc), taken)
  | _ + 1, _, taken, [] => (none, taken)
  | n + 1, acc, taken, b :: bs =>
    if isContinuation b then continued n (acc * 64 + b.toNat % 64) (taken + 1) bs
    else (none, taken)

/-- **What the byte `b`, followed by `rest`, starts**: a character or (`none`) a run that starts
none, and how many bytes of `rest` belong to it. -/
def head (b : UInt8) (rest : List UInt8) : Option Char × Nat :=
  if b < 0x80 then (some (Char.ofNat b.toNat), 0)
  else
    match announced b, rest with
    | some (n, low, high), c :: more =>
      if low ≤ c && c ≤ high then
        continued (n - 1) (b.toNat % Nat.pow 2 (6 - n) * 64 + c.toNat % 64) 1 more
      else (none, 0)
    | _, _ => (none, 0)

/-- Reads a byte string of which the first `skip` bytes are accounted for. -/
def scalarsFrom : (skip : Nat) → List UInt8 → List (Option Char)
  | _, [] => []
  | skip + 1, _ :: bs => scalarsFrom skip bs
  | 0, b :: bs => (head b bs).1 :: scalarsFrom (head b bs).2 bs

/-- **A byte string as characters**, `none` for each run of bytes that starts no character. -/
def scalars (bytes : List UInt8) : List (Option Char) := scalarsFrom 0 bytes

/-- The text of a byte string in which every byte is part of a character. -/
def decode? (bytes : List UInt8) : Option String :=
  if (scalars bytes).all Option.isSome then some (String.ofList ((scalars bytes).filterMap id))
  else none

/-- The text of any byte string, with a replacement character for what is no character. -/
def decodeLossy (bytes : List UInt8) : String :=
  String.ofList ((scalars bytes).map (·.getD '\uFFFD'))

/-- The bytes of a text. -/
def encode (s : String) : List UInt8 := s.toList.flatMap String.utf8EncodeChar

/-- No bytes are no characters. -/
@[simp] theorem scalars_nil : scalars [] = [] := rfl

/-- The empty text has no bytes. -/
@[simp] theorem encode_empty : encode "" = [] := rfl

/-- A byte below 128 is a character by itself, whatever follows it. -/
theorem head_of_ascii {b : UInt8} (h : b < 0x80) (rest : List UInt8) :
    head b rest = (some (Char.ofNat b.toNat), 0) := by
  simp [head, h]

/-- Reading peels off one ASCII byte at a time. -/
theorem scalars_cons_of_ascii {b : UInt8} (h : b < 0x80) (rest : List UInt8) :
    scalars (b :: rest) = some (Char.ofNat b.toNat) :: scalars rest := by
  simp [scalars, scalarsFrom, head_of_ascii h]

end DrumMachine.Text.Utf8
