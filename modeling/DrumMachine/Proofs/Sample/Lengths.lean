import DrumMachine.Audio.Sample
import DrumMachine.Proofs.Double.Arithmetic
import Mathlib.Algebra.Order.Floor.Div

/-! # How long a sample is at another rate

The length of a sample at another rate is computed in double precision, from a quotient that is
rounded twice: the stride is, and then the number of frames divided by it. As long as the number of
frames times the new rate has at most 52 bits, both errors together do not reach the next whole
number (`Sample.length_resampled_eq_ceilDiv_or_succ`). But where the exact length is a whole number
itself, they may lead past it (`Sample.not_length_resampled_eq_ceilDiv`). -/

namespace DrumMachine.Sample

open Double

variable {x : Float} {v : ℚ} {old new : UInt32} {n : Nat}

/-- **The ceiling of a double** is that of the number it holds. -/
theorem ceiling_of_holds (h : Holds x v) (hv : v < 2 ^ 53) : ceiling x = ⌈v⌉₊ := by
  have hwhole : x.toUInt64.toNat = ⌊v⌋₊ := h.toNat_toUInt64 (hv.trans (by norm_num))
  have hfloor : ⌊v⌋₊ < 2 ^ 53 := (Nat.floor_lt h.pos.le).mpr (by exact_mod_cast hv)
  have hless : x.toUInt64.toFloat < x ↔ (⌊v⌋₊ : ℚ) < v := by
    rcases Nat.eq_zero_or_pos ⌊v⌋₊ with hzero | hpos
    · -- the whole part is the double zero, which holds no positive number
      have hword : x.toUInt64 = 0 := UInt64.toNat_inj.mp (hwhole.trans hzero)
      rw [hword, hzero, Nat.cast_zero]
      exact iff_of_true h.zero_lt h.pos
    · have hholds : Holds x.toUInt64.toFloat ⌊v⌋₊ := by
        have hholds := holds_ofNat hpos hfloor
        rwa [← hwhole] at hholds ⊢
      exact hholds.lt_iff h
  rw [ceiling, hwhole]
  simp only [hless]
  refine le_antisymm ?_ ?_
  · split
    next hlt => exact Nat.succ_le_of_lt (Nat.lt_ceil.mpr hlt)
    next => exact Nat.floor_le_ceil v
  · split
    next => exact Nat.ceil_le_floor_add_one v
    next hge => exact Nat.ceil_le.mpr (not_lt.mp hge)

/-- A rate that is not zero is at least one. -/
theorem one_le_toNat (h : old ≠ 0) : 1 ≤ old.toNat :=
  Nat.pos_of_ne_zero fun hzero => h (UInt32.toNat_inj.mp hzero)

/-- A rate is held exactly by its float. -/
theorem holds_toFloat (h : old ≠ 0) : Holds old.toFloat old.toNat :=
  holds_ofNat (one_le_toNat h) (old.toNat_lt.trans (by decide))

/-- A count of frames below `2 ^ 53` is held exactly. -/
theorem holds_ofCount (hpos : 0 < n) (hlt : n < 2 ^ 53) : Holds (ofCount n) n := by
  have hn : n.toUInt64.toNat = n := UInt64.toNat_ofNat_of_lt' (hlt.trans (by decide))
  show Holds (.ofModel (.ofNat n.toUInt64.toNat)) n
  rw [hn]
  exact holds_ofNat hpos hlt

/-- The stride is the quotient of the rates, rounded. -/
theorem exists_holds_stride (hold : old ≠ 0) (hnew : new ≠ 0) :
    ∃ s, Holds (stride old new) s ∧ IsRounded s (old.toNat / new.toNat) := by
  have hle {a b : UInt32} (hb : b ≠ 0) : (a.toNat : ℚ) ≤ b.toNat * 2 ^ 200 := by
    have hle : a.toNat ≤ b.toNat * 2 ^ 200 := calc
      a.toNat ≤ 1 * 2 ^ 32 := by
        rw [one_mul]
        exact a.toNat_lt.le
      _ ≤ b.toNat * 2 ^ 200 :=
        Nat.mul_le_mul (one_le_toNat hb) (Nat.pow_le_pow_right two_pos (by decide))
    exact_mod_cast hle
  exact (holds_toFloat hold).div (holds_toFloat hnew) (hle hnew) (hle hold)

/-- An error that is in proportion stays in proportion. -/
theorem abs_mul_sub_mul_le {r v c : ℚ} (h : IsRounded r v) (hc : 0 ≤ c) :
    |r * c - v * c| ≤ v * c / 2 ^ 53 := by
  rw [← sub_mul, abs_mul, abs_of_nonneg hc, mul_div_right_comm]
  exact mul_le_mul_of_nonneg_right h.abs_sub_le hc

/-- **The quotient that is rounded twice** differs from the exact one by less than one fraction of
the old rate, as long as there are fewer than `2 ^ 52` of them. -/
theorem abs_sub_lt_one {count old new s q : ℚ} (hold : 0 < old) (hnew : 0 < new) (hs : 0 < s)
    (hcount : 0 < count) (hstride : IsRounded s (old / new)) (hquotient : IsRounded q (count / s))
    (hfits : count * new ≤ 2 ^ 52 - 1) : |q * old - count * new| < 1 := by
  -- both are compared with `count / s * old`, which only the first rounding has changed
  have hexact : |count * new - count / s * old| ≤ count / s * old / 2 ^ 53 := by
    have h := abs_mul_sub_mul_le hstride (mul_pos hnew (div_pos hcount hs)).le
    have hcount : s * (new * (count / s)) = count * new := by field_simp
    have hold : old / new * (new * (count / s)) = count / s * old := by field_simp
    rwa [hcount, hold] at h
  have hrounded := abs_mul_sub_mul_le hquotient hold.le
  rw [abs_le] at hexact hrounded
  rw [abs_lt]
  constructor <;> linarith

/-- A stride has at most 33 bits before and behind the point. -/
theorem stride_bounds {s : ℚ} (hold : old ≠ 0) (hnew : new ≠ 0)
    (h : IsRounded s (old.toNat / new.toNat)) : 1 / 2 ^ 33 ≤ s ∧ s ≤ 2 ^ 33 := by
  have hold : (1 : ℚ) ≤ old.toNat := by exact_mod_cast one_le_toNat hold
  have hnew : (1 : ℚ) ≤ new.toNat := by exact_mod_cast one_le_toNat hnew
  have hold' : (old.toNat : ℚ) ≤ 2 ^ 32 := by exact_mod_cast old.toNat_lt.le
  have hnew' : (new.toNat : ℚ) ≤ 2 ^ 32 := by exact_mod_cast new.toNat_lt.le
  have hlow : 1 / 2 ^ 32 ≤ (old.toNat / new.toNat : ℚ) :=
    div_le_div₀ (by linarith) hold (by linarith) hnew'
  have hhigh : (old.toNat / new.toNat : ℚ) ≤ 2 ^ 32 := div_le_of_le_mul₀ (by linarith) (by norm_num)
    (hold'.trans (le_mul_of_one_le_right (by norm_num) hnew))
  have herror := abs_le.mp h.abs_sub_le
  constructor <;> linarith

/-- The count, divided by the stride, is rounded once more. -/
theorem exists_holds_quotient (hold : old ≠ 0) (hnew : new ≠ 0) (hpos : 0 < n)
    (hlt : n < 2 ^ 53) : ∃ s q, Holds (stride old new) s ∧
      IsRounded s (old.toNat / new.toNat) ∧ Holds (ofCount n / stride old new) q ∧
      IsRounded q (n / s) := by
  obtain ⟨s, hs, hstride⟩ := exists_holds_stride hold hnew
  obtain ⟨hlow, hhigh⟩ := stride_bounds hold hnew hstride
  have hone : (1 : ℚ) ≤ n := by exact_mod_cast hpos
  have hfew : (n : ℚ) < 2 ^ 53 := by exact_mod_cast hlt
  obtain ⟨q, hq, hquotient⟩ := (holds_ofCount hpos hlt).div hs (by linarith) (by linarith)
  exact ⟨s, q, hs, hstride, hq, hquotient⟩

/-- **The ceiling of a quotient that is not quite exact** is that of the exact one, or follows it
if that is a whole number. -/
theorem ceil_eq_ceilDiv_or_succ {a b : Nat} {q : ℚ} (hb : 0 < b) (h : |q * b - a| < 1) :
    ⌈q⌉₊ = a ⌈/⌉ b ∨ ∃ c : Nat, a = b * c ∧ c < q ∧ ⌈q⌉₊ = a ⌈/⌉ b + 1 := by
  have hpos : (0 : ℚ) < b := by exact_mod_cast hb
  obtain ⟨hlow, hhigh⟩ := abs_lt.mp h
  have hle : a ⌈/⌉ b ≤ ⌈q⌉₊ := by
    rw [ceilDiv_le_iff_le_mul hb]
    have hceil : q * b ≤ ⌈q⌉₊ * b := mul_le_mul_of_nonneg_right (Nat.le_ceil q) hpos.le
    have hlt : (a : ℚ) < b * ⌈q⌉₊ + 1 := by linarith
    exact Nat.lt_succ_iff.mp (by exact_mod_cast hlt)
  rcases hle.eq_or_lt with heq | hlt
  · exact .inl heq.symm
  · right
    have hbeyond : ((a ⌈/⌉ b : Nat) : ℚ) < q := Nat.lt_ceil.mp hlt
    have hwhole : a = b * (a ⌈/⌉ b) := by
      refine le_antisymm (le_smul_ceilDiv hb) (Nat.lt_succ_iff.mp ?_)
      have hless : ((a ⌈/⌉ b : Nat) : ℚ) * b < a + 1 := by nlinarith
      rw [mul_comm]
      exact_mod_cast hless
    refine ⟨a ⌈/⌉ b, hwhole, hbeyond, le_antisymm (Nat.ceil_le.mpr ?_) hlt⟩
    -- One more frame of the old rate is at least one more.
    have hone : (1 : ℚ) ≤ b := by exact_mod_cast hb
    have hexact : (a : ℚ) = b * (a ⌈/⌉ b : Nat) := by exact_mod_cast hwhole
    push_cast
    nlinarith

/-- A quotient passes the exact one, if this is a whole number, only after a stride that has been
rounded down. -/
theorem stride_lt_of_lt {count c : Nat} {old new s q : ℚ} (hnew : 0 < new) (hs : 0 < s)
    (hquotient : IsRounded q (count / s)) (hwhole : count * new = old * c) (hc : c < 2 ^ 53)
    (h : c < q) : s < old / new := by
  refine Decidable.byContradiction fun hnot => absurd h (not_lt.mpr ?_)
  refine hquotient.le_of_le c hc ?_
  have hcount : (count : ℚ) = c * (old / new) := by
    rw [mul_div_assoc', eq_div_iff hnew.ne', hwhole, mul_comm]
  rw [div_le_iff₀ hs, hcount]
  exact mul_le_mul_of_nonneg_left (not_lt.mp hnot) (Nat.cast_nonneg c)

/-- Two frames at another rate are resampled. -/
theorem keepsFrames_eq_false {sample : Sample} {rate : UInt32} (hframes : 2 ≤ sample.length)
    (hold : sample.rate ≠ 0) (hnew : rate ≠ 0) (hother : rate ≠ sample.rate) :
    sample.keepsFrames rate = false := by
  rw [keepsFrames, beq_eq_false_iff_ne.mpr hother, beq_eq_false_iff_ne.mpr hnew,
    beq_eq_false_iff_ne.mpr hold, decide_eq_false (Nat.not_lt.mpr hframes)]
  rfl

/-- **How many frames there are at another rate**, as long as their number times the new rate has at
most 52 bits. It is the ceiling of the exact quotient, unless this is a whole number and the stride
has been rounded down; then there may be one frame more. -/
theorem length_resampled_eq_ceilDiv_or_succ {sample : Sample} {rate : UInt32}
    (hframes : 2 ≤ sample.length) (hold : sample.rate ≠ 0) (hnew : rate ≠ 0)
    (hother : rate ≠ sample.rate) (hfits : sample.length * rate.toNat < 2 ^ 52) :
    (sample.resampled rate).length = sample.length * rate.toNat ⌈/⌉ sample.rate.toNat ∨
      sample.rate.toNat ∣ sample.length * rate.toNat ∧
      (∃ s, Holds (stride sample.rate rate) s ∧ s < sample.rate.toNat / rate.toNat) ∧
      (sample.resampled rate).length =
        (sample.length * rate.toNat ⌈/⌉ sample.rate.toNat) + 1 := by
  have hcount : 0 < sample.length := Nat.zero_lt_of_lt hframes
  have hfew : sample.length < 2 ^ 53 :=
    (Nat.le_mul_of_pos_right _ (one_le_toNat hnew)).trans_lt (hfits.trans (by decide))
  have hpos : (0 : ℚ) < sample.rate.toNat := by exact_mod_cast one_le_toNat hold
  have hpos' : (0 : ℚ) < rate.toNat := by exact_mod_cast one_le_toNat hnew
  have hfits' : (sample.length * rate.toNat : ℚ) ≤ 2 ^ 52 - 1 := by
    rw [le_sub_iff_add_le]
    exact_mod_cast hfits
  -- the stride and the quotient are rounded, and both errors together stay small
  obtain ⟨s, q, hs, hstride, hq, hquotient⟩ := exists_holds_quotient hold hnew hcount hfew
  have hclose : |q * sample.rate.toNat - (sample.length * rate.toNat : Nat)| < 1 := by
    rw [Nat.cast_mul]
    exact abs_sub_lt_one hpos hpos' hs.pos (by exact_mod_cast hcount) hstride hquotient hfits'
  have hlength : (sample.resampled rate).length = ⌈q⌉₊ := by
    rw [length_resampled_of_not_keepsFrames (keepsFrames_eq_false hframes hold hnew hother),
      resampledLength]
    refine ceiling_of_holds hq ?_
    have hone : (1 : ℚ) ≤ sample.rate.toNat := by exact_mod_cast one_le_toNat hold
    have hless := (abs_lt.mp hclose).2
    rw [Nat.cast_mul] at hless
    nlinarith [hq.pos]
  rw [hlength]
  rcases ceil_eq_ceilDiv_or_succ (one_le_toNat hold) hclose with heq | ⟨c, hwhole, hbeyond, hsucc⟩
  · exact .inl heq
  -- beyond a whole number only a stride that is too small can lead
  have hc : c ≤ sample.length * rate.toNat := by
    rw [hwhole]
    exact Nat.le_mul_of_pos_left c (one_le_toNat hold)
  have hexact : (sample.length * rate.toNat : ℚ) = sample.rate.toNat * c := by
    exact_mod_cast hwhole
  have hdown := stride_lt_of_lt hpos' hs.pos hquotient hexact
    (hc.trans_lt (hfits.trans (by decide))) hbeyond
  exact .inr ⟨Dvd.intro c hwhole.symm, ⟨s, hs, hdown⟩, hsucc⟩

/-- Three frames at 44100 Hz are four at 48000 Hz. -/
theorem length_resampled_three_frames :
    ((⟨[0, 0, 0], 44100⟩ : Sample).resampled 48000).length = 4 :=
  (@length_resampled_eq_ceilDiv_or_succ ⟨[0, 0, 0], 44100⟩ 48000 (by decide) (by decide)
    (by decide) (by decide) (by decide)).resolve_right fun h => absurd h.1 (by decide)

/-- Two frames that are to be 98 at 49 times the rate come out as 99: the quotient is rounded up
past its exact value, which is whole. -/
theorem not_length_resampled_eq_ceilDiv :
    ((⟨[0, 0], 1000⟩ : Sample).resampled 49000).length = 99 ∧ 2 * 49000 ⌈/⌉ 1000 = 98 := by
  decide +kernel

/-! ## The first frame -/

/-- **The first frame stands at position zero**: no stride has been made, and it is computed from
the first two frames. -/
theorem getElem?_zero_frames_resampled {sample : Sample} {rate : UInt32} {first second : Float32}
    {rest : List Float32} (hframes : sample.frames = first :: second :: rest)
    (hkeeps : sample.keepsFrames rate = false) (hpos : 0 < sample.resampledLength rate) :
    (sample.resampled rate).frames[0]? =
      some (first + (second - first) * (ofCount 0 - ofCount 0).toFloat32) := by
  have hrates : rate ≠ 0 ∧ sample.rate ≠ 0 := by
    simp only [keepsFrames, Bool.or_eq_false_iff, beq_eq_false_iff_ne] at hkeeps
    exact ⟨hkeeps.1.1.2, hkeeps.1.2⟩
  obtain ⟨s, hs, -⟩ := exists_holds_stride hrates.2 hrates.1
  have hposition : ofCount 0 * stride sample.rate rate = ofCount 0 := hs.zero_mul
  have hindex : (ofCount 0).toUInt64.toNat = 0 := rfl
  rw [getElem?_frames_resampled, if_neg (by rw [hkeeps]; decide), if_pos hpos, hposition, between,
    hframes, hindex]
  rfl

end DrumMachine.Sample
