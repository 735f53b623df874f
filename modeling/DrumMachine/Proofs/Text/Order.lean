import DrumMachine.Text.Utf8
import Mathlib.Data.String.Basic

/-! # The bytes of a text

An ASCII byte stands in the bytes of a text only for its own character
(`mem_encode_iff_of_ascii`). And texts are ordered as their bytes are (`lt_iff_encode_lt`): of two
characters the smaller one has the smaller bytes, at the first place where they differ
(`utf8EncodeChar_append_lt`), whatever follows them. -/

namespace DrumMachine.Text.Utf8

/-! ## ASCII -/

/-- An ASCII character is one byte. -/
theorem utf8EncodeChar_of_ascii {c : Char} (h : c.toNat < 128) :
    String.utf8EncodeChar c = [UInt8.ofNat c.toNat] := by
  have hle : c.val.toNat ≤ 127 := Nat.le_of_lt_succ h
  rw [String.utf8EncodeChar, if_pos hle]
  rfl

/-- The bytes below 128 stand for themselves only. -/
theorem mem_utf8EncodeChar_iff_of_ascii {b : UInt8} (hb : b.toNat < 128) {c : Char} :
    b ∈ String.utf8EncodeChar c ↔ c.toNat = b.toNat := by
  have hbyte : ∀ n, b = UInt8.ofNat n ↔ b.toNat = n % 256 := by
    intro n
    rw [← UInt8.toNat_inj, UInt8.toNat_ofNat']
  have hval : c.val.toNat = c.toNat := rfl
  rw [String.utf8EncodeChar, hval]
  -- the bytes of a character that takes more than one are all beyond ASCII
  split_ifs <;> simp only [List.mem_cons, List.not_mem_nil, or_false, hbyte] <;> omega

/-- **An ASCII byte stands for its own character**, wherever it stands. -/
theorem mem_encode_iff_of_ascii {b : UInt8} (hb : b.toNat < 128) {s : String} :
    b ∈ encode s ↔ Char.ofNat b.toNat ∈ s.toList := by
  have hchar : ∀ c : Char, c.toNat = b.toNat ↔ c = Char.ofNat b.toNat := by
    intro c
    constructor
    · intro h
      rw [← h, Char.ofNat_toNat]
    · rintro rfl
      have hascii : ∀ n < 128, (Char.ofNat n).toNat = n := by decide
      exact hascii b.toNat hb
  simp [encode, List.mem_flatMap, mem_utf8EncodeChar_iff_of_ascii hb, hchar]

/-! ## Order -/

/-- **The smaller of two characters has the smaller bytes**, whatever follows them. -/
theorem utf8EncodeChar_append_lt {c d : Char} (h : c < d) (x y : List UInt8) :
    String.utf8EncodeChar c ++ x < String.utf8EncodeChar d ++ y := by
  have hlt : c.val.toNat < d.val.toNat := h
  have hc : c.val.toNat < 1114112 := by have := c.valid; omega
  have hd : d.val.toNat < 1114112 := by have := d.valid; omega
  have hbyte : ∀ m n, UInt8.ofNat m < UInt8.ofNat n ↔ m % 256 < n % 256 := by
    intro m n
    rw [UInt8.lt_iff_toNat_lt, UInt8.toNat_ofNat', UInt8.toNat_ofNat']
  have hsame : ∀ m n, UInt8.ofNat m = UInt8.ofNat n ↔ m % 256 = n % 256 := by
    intro m n
    rw [← UInt8.toNat_inj, UInt8.toNat_ofNat', UInt8.toNat_ofNat']
  rw [String.utf8EncodeChar, String.utf8EncodeChar]
  generalize c.val.toNat = m at *
  generalize d.val.toNat = n at *
  -- with these, all comparisons are between digits to the base 64
  have hdigits : ∀ k, k / 64 / 64 = k / 4096 ∧ k / 4096 / 64 = k / 262144 := fun k =>
    ⟨Nat.div_div_eq_div_mul .., Nat.div_div_eq_div_mul ..⟩
  obtain ⟨hm₁, hm₂⟩ := hdigits m
  obtain ⟨hn₁, hn₂⟩ := hdigits n
  have hm₃ : m / 262144 % 8 = m / 262144 := by omega
  have hn₃ : n / 262144 % 8 = n / 262144 := by omega
  have hmod : ∀ k, (k % 64 + 128) % 256 = k % 64 + 128 ∧ (k % 8 + 240) % 256 = k % 8 + 240 := by
    omega
  split_ifs <;>
    simp only [List.cons_append, List.nil_append, List.cons_lt_cons_iff, hbyte, hsame, hmod] <;>
      omega

/-- The bytes of texts are ordered as their characters are. -/
theorem flatMap_utf8EncodeChar_lt {cs ds : List Char} (h : cs < ds) :
    cs.flatMap String.utf8EncodeChar < ds.flatMap String.utf8EncodeChar := by
  induction cs generalizing ds with
  | nil =>
    cases ds with
    | nil => exact absurd h (List.not_lt_nil _)
    | cons d ds =>
      obtain ⟨b, bs, hd⟩ := List.exists_cons_of_ne_nil (String.utf8EncodeChar_ne_nil (c := d))
      rw [List.flatMap_cons, hd]
      exact List.nil_lt_cons _ _
  | cons c cs ih =>
    cases ds with
    | nil => exact absurd h (List.not_lt_nil _)
    | cons d ds =>
      rw [List.flatMap_cons, List.flatMap_cons]
      -- the first characters decide, or they have the same bytes
      obtain hlt | ⟨rfl, hrest⟩ := List.cons_lt_cons_iff.mp h
      · exact utf8EncodeChar_append_lt hlt _ _
      · exact List.append_left_lt (ih hrest)

/-- **Texts are ordered as their bytes are.** -/
theorem lt_iff_encode_lt {s t : String} : s < t ↔ encode s < encode t := by
  have hmono : ∀ {s t : String}, s < t → encode s < encode t := fun h =>
    flatMap_utf8EncodeChar_lt (String.lt_iff_toList_lt.mp h)
  constructor
  · exact hmono
  · intro h
    obtain hlt | rfl | hgt := lt_trichotomy s t
    · exact hlt
    · exact absurd h (List.lt_irrefl _)
    · exact absurd h (List.lt_asymm (hmono hgt))

end DrumMachine.Text.Utf8
