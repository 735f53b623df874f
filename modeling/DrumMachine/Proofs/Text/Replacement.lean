import DrumMachine.Text.Utf8

/-! # What replacement characters hide

Bytes that are no text are read as replacement characters, and different bytes may then be read
alike. Two bytes that are read without one are two ASCII characters or one character of two bytes
(`toList_decodeLossy_pair`), and no other two bytes are read as the same text
(`eq_of_decodeLossy_eq`). -/

namespace DrumMachine.Text.Utf8

/-- What is no character becomes the replacement character. -/
theorem toList_decodeLossy (bytes : List UInt8) :
    (decodeLossy bytes).toList = (scalars bytes).map (·.getD '\uFFFD') := by
  rw [decodeLossy, String.toList_ofList]

/-- Where something is no character, there is a replacement character. -/
theorem replacement_mem_of_none_mem {bytes : List UInt8} (h : none ∈ scalars bytes) :
    '\uFFFD' ∈ (decodeLossy bytes).toList := by
  rw [toList_decodeLossy]
  exact List.mem_map.mpr ⟨none, h, rfl⟩

/-- A single byte from 128 on is no character. -/
theorem scalars_singleton_of_not_ascii {b : UInt8} (h : ¬ b < 0x80) : scalars [b] = [none] := by
  have hhead : head b [] = (none, 0) := by simp [head, h]
  rw [scalars, scalarsFrom, hhead, scalarsFrom]

/-- A byte that announces just one more is in a range of its own. -/
theorem one_lt_of_announced {a : UInt8} (h : ¬ (0xC2 ≤ a ∧ a ≤ 0xDF)) {n : Nat} {low high : UInt8}
    (hannounced : announced a = some (n, low, high)) : 1 < n := by
  rw [announced, if_neg (by simpa using h)] at hannounced
  grind

/-- **What two bytes start**, of which the first is not ASCII: a character of two bytes, or none. -/
theorem head_pair {a : UInt8} (h : ¬ a < 0x80) (b : UInt8) :
    (head a [b]).1 = none ∨
      ((0xC2 ≤ a ∧ a ≤ 0xDF) ∧ (0x80 ≤ b ∧ b ≤ 0xBF)) ∧
        head a [b] = (some (Char.ofNat (a.toNat % 32 * 64 + b.toNat % 64)), 1) := by
  unfold head
  rw [if_neg h]
  by_cases htwo : 0xC2 ≤ a ∧ a ≤ 0xDF
  · have hannounced : announced a = some (1, 0x80, 0xBF) := by
      rw [announced, if_pos (by simpa using htwo)]
    simp only [hannounced]
    by_cases hnext : 0x80 ≤ b ∧ b ≤ 0xBF
    · rw [if_pos (by simpa using hnext)]
      exact .inr ⟨⟨htwo, hnext⟩, rfl⟩
    · rw [if_neg (by simpa using hnext)]
      exact .inl rfl
  · left
    cases hannounced : announced a with
    | none => rfl
    | some next =>
      obtain ⟨n, low, high⟩ := next
      -- a character of more bytes is cut off
      have hmore := one_lt_of_announced htwo hannounced
      obtain ⟨m, rfl⟩ : ∃ m, n = m + 2 := ⟨n - 2, by omega⟩
      dsimp only
      split <;> rfl

/-- **Two bytes as a text** in which nothing was replaced: two ASCII characters, or one character of
two bytes. -/
theorem toList_decodeLossy_pair {a b : UInt8} (h : '\uFFFD' ∉ (decodeLossy [a, b]).toList) :
    (a < 0x80 ∧ b < 0x80) ∧
        (decodeLossy [a, b]).toList = [Char.ofNat a.toNat, Char.ofNat b.toNat] ∨
      ((0xC2 ≤ a ∧ a ≤ 0xDF) ∧ (0x80 ≤ b ∧ b ≤ 0xBF)) ∧
        (decodeLossy [a, b]).toList = [Char.ofNat (a.toNat % 32 * 64 + b.toNat % 64)] := by
  have hnone : none ∉ scalars [a, b] := fun hmem => h (replacement_mem_of_none_mem hmem)
  rw [toList_decodeLossy]
  by_cases ha : a < 0x80
  · rw [scalars_cons_of_ascii ha] at hnone ⊢
    by_cases hb : b < 0x80
    · rw [scalars_cons_of_ascii hb, scalars_nil]
      exact .inl ⟨⟨ha, hb⟩, rfl⟩
    · rw [scalars_singleton_of_not_ascii hb] at hnone
      exact absurd (by simp) hnone
  · obtain hhead | ⟨hrange, hhead⟩ := head_pair ha b
    · rw [scalars, scalarsFrom, hhead] at hnone
      exact absurd List.mem_cons_self hnone
    · rw [scalars, scalarsFrom, hhead]
      exact .inr ⟨hrange, rfl⟩

/-- Below the surrogates different numbers are different characters. -/
theorem eq_of_charOfNat_eq {m n : Nat} (hm : m < 0xD800) (hn : n < 0xD800)
    (h : Char.ofNat m = Char.ofNat n) : m = n := by
  have htoNat : ∀ {k : Nat}, k < 0xD800 → (Char.ofNat k).toNat = k := by
    intro k hk
    rw [Char.ofNat, dif_pos (.inl hk)]
    rfl
  rw [← htoNat hm, h, htoNat hn]

/-- **A text without a replacement character is that of one pair of bytes only.** -/
theorem eq_of_decodeLossy_eq {a b c d : UInt8} (h : decodeLossy [a, b] = decodeLossy [c, d])
    (hplain : '\uFFFD' ∉ (decodeLossy [a, b]).toList) : a = c ∧ b = d := by
  have hleft := toList_decodeLossy_pair hplain
  have hright := toList_decodeLossy_pair (h ▸ hplain)
  rw [← h] at hright
  simp only [UInt8.lt_iff_toNat_lt, UInt8.le_iff_toNat_le, UInt8.reduceToNat] at hleft hright
  rw [← UInt8.toNat_inj, ← UInt8.toNat_inj]
  -- two characters of one byte each, or one character of two bytes
  obtain ⟨⟨ha, hb⟩, hab⟩ | ⟨⟨ha, hb⟩, hab⟩ := hleft
  · obtain ⟨⟨hc, hd⟩, hcd⟩ | ⟨-, hcd⟩ := hright
    · rw [hab, List.cons.injEq, List.cons.injEq] at hcd
      exact ⟨eq_of_charOfNat_eq (by omega) (by omega) hcd.1,
        eq_of_charOfNat_eq (by omega) (by omega) hcd.2.1⟩
    · rw [hab] at hcd
      exact absurd (congrArg List.length hcd) (by simp)
  · obtain ⟨-, hcd⟩ | ⟨⟨hc, hd⟩, hcd⟩ := hright
    · rw [hab] at hcd
      exact absurd (congrArg List.length hcd) (by simp)
    · rw [hab, List.cons.injEq] at hcd
      have hsame := eq_of_charOfNat_eq (by omega) (by omega) hcd.1
      omega

end DrumMachine.Text.Utf8
